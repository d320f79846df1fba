import CommerceCoordinator.MobileCleanUp

open Commercetools CallTree MobileStore MobileCreateOrder

-- The payments that the orders of many mobile requests end up with, whatever
-- earlier requests have left behind.
namespace PaidOrders

section Sales
variable {ι : Type}

structure Sale where
  customerId : String
  totalPrice : CentPrecisionMoney
  payments : List String

def saleOf (order : MobileStore.Order) : Sale := ⟨order.customerId,order.totalPrice,order.payments⟩
def sales (s : Store ι) : List Sale := s.orders.map saleOf

def SameMoney (amount other : CentPrecisionMoney) : Prop :=
  amount.centAmount = other.centAmount ∧ amount.currencyCode = other.currencyCode

instance : Decidable (SameMoney amount other) := inferInstanceAs (Decidable (_ ∧ _))

def Paid (s : Store ι) (sale : Sale) : Prop :=
  ∃ payment ∈ s.payments, payment.id ∈ sale.payments ∧ payment.customerId = some sale.customerId ∧
    SameMoney payment.amountPlanned sale.totalPrice

instance (s : Store ι) (sale : Sale) : Decidable (Paid s sale) := inferInstanceAs (Decidable (∃ _ ∈ _, _))

def customerOf (user : User) (s : Store ι) : Option Customer :=
  user.lmsUserId.bind fun id => s.customers.find? (·.lmsUserId = toString id)

def currentCart (s : Store ι) (customerId : String) : Option Cart :=
  (s.carts.filter fun cart => cart.customerId = customerId ∧ cart.cartState = .active).getLast?

def androidTransaction (purchase : GooglePlayPurchase) : Option String :=
  if purchase.purchaseState = 1 ∨ purchase.purchaseTimeMillis = none then none
  else purchase.orderId.filter (· ≠ "")

def iosTransaction (price : Int) (receipt : AppStoreReceipt) : Option String :=
  if receipt.receiptCreationDate = none then none
  else ((latestPurchase (receipt.inApp.filter (·.productId = getConsumableIosSku price))).filter
    (·.cancellationReason.isNone)).map (·.originalTransactionId)

def validatedId (outside : Outside) (request : MobileOrderRequest) (price : Int) : Option String :=
  if request.paymentProcessor = androidIap then
    (outside.googlePlay (getConsumableAndroidSku price) request.purchaseToken).toOption.bind androidTransaction
  else if request.paymentProcessor = iosIap then
    (outside.appStore request.purchaseToken).toOption.bind (iosTransaction price)
  else none

structure Post (ι : Type) where
  outside : Outside
  caller : ι
  user : User
  request : MobileOrderRequest

-- A payment for the transaction of this request is left over: no cart carries it
-- but the one the request is about to delete.
def Reuses (s : Store ι) (sent : Post ι) (payment : MobileStore.Payment) : Prop :=
  ∃ price ∈ (sent.outside.standalonePrices sent.request.data.courseRunKey).head?,
    ∃ transactionId ∈ validatedId sent.outside sent.request (price.centAmount.tdiv 100),
      (s.payments.filter (transactionId ∈ ·.interactionIds)).head? = some payment ∧
      ∀ cart ∈ s.carts, payment.id ∈ cart.payments →
        ∃ old ∈ (customerOf sent.user s).bind fun customer => currentCart s customer.id, old.id = cart.id

def OwnPayment (currencies : String → Option Nat) (s : Store ι) (sent : Post ι) : Prop :=
  ∀ payment, Reuses s sent payment → ∃ customer ∈ customerOf sent.user s, payment.customerId = some customer.id ∧
    ∀ price, externalPriceOf currencies sent.request.data = (.pure price : Call ι CentPrecisionMoney) →
      SameMoney payment.amountPlanned price

theorem reuses_unique {s : Store ι} {sent : Post ι} (first : Reuses s sent payment) (second : Reuses s sent other) :
    payment = other := by
  obtain ⟨price,priced,id,validated,found,_⟩ := first
  obtain ⟨price',priced',id',validated',found',_⟩ := second
  cases Option.mem_unique priced priced'
  cases Option.mem_unique validated validated'
  exact Option.some.inj (found.symm.trans found')

end Sales

section Standing
variable {ι : Type} {s t u : Store ι}

structure Sound (s : Store ι) : Prop where
  usedCustomers : ∀ c ∈ s.customers, c.id ∈ s.usedIds
  usedCarts : ∀ c ∈ s.carts, c.id ∈ s.usedIds ∧ c.customerId ∈ s.usedIds
  usedPayments : ∀ p ∈ s.payments, p.id ∈ s.usedIds
  usedPayers : ∀ p ∈ s.payments, ∀ id ∈ p.customerId, id ∈ s.usedIds
  paymentIds : ∀ p ∈ s.payments, ∀ q ∈ s.payments, p.id = q.id → p = q

structure Still (s t : Store ι) : Prop where
  payments : t.payments = s.payments
  sales : sales t = sales s
  used : s.usedIds ⊆ t.usedIds
  sound : Sound s → Sound t

structure Idle (s t : Store ι) : Prop where
  still : Still s t
  carts : t.carts = s.carts

theorem Still.trans (first : Still s t) (second : Still t u) : Still s u :=
  ⟨second.payments.trans first.payments,second.sales.trans first.sales,List.Subset.trans first.used second.used,
    fun sound => second.sound (first.sound sound)⟩

theorem Idle.refl (s : Store ι) : Idle s s := ⟨⟨rfl,rfl,List.Subset.refl _,id⟩,rfl⟩

theorem Idle.trans (first : Idle s t) (second : Idle t u) : Idle s u :=
  ⟨first.still.trans second.still,second.carts.trans first.carts⟩

theorem idle_counter (s : Store ι) (counter : OrderNumber.Store ι) : Idle s {s with counter} :=
  ⟨⟨rfl,rfl,List.Subset.refl _,fun sound => ⟨sound.1,sound.2,sound.3,sound.4,sound.5⟩⟩,rfl⟩

def idle : Request ι → Bool
  | .deleteCartById _ _ => false
  | .createCart _ => false
  | .updateCartById _ _ _ => false
  | .createPayment _ => false
  | .createOrder _ _ _ => false
  | _ => true

theorem sale_kept {order updated : MobileStore.Order} (changed : transitionOrder outside actions order = some updated) :
    saleOf updated = saleOf order := by
  obtain ⟨lineItems,_,same⟩ := Option.bind_eq_some_iff.mp changed
  cases same
  rfl

theorem idle_step {outside : Outside} {choice : Choice} {r : Request ι} (unrelated : idle r = true) (s : Store ι) :
    Idle s (serve outside choice r s).2 := by
  cases r with
  | deleteCartById id version => cases unrelated
  | createCart draft => cases unrelated
  | updateCartById id version actions => cases unrelated
  | createPayment draft => cases unrelated
  | createOrder cartId version orderNumber => cases unrelated
  | updateCustomerById id version actions =>
    rcases update_customer_cases outside choice version s id actions with ⟨code,served⟩ | ⟨customer,updated,found,same,served⟩
    · rw [served]
      exact .refl s
    · rw [served]
      refine ⟨⟨rfl,rfl,List.Subset.refl _,fun sound => ⟨?_,sound.2,sound.3,sound.4,sound.5⟩⟩,rfl⟩
      intro c member
      obtain ⟨earlier,present,changed⟩ := List.mem_map.mp member
      split at changed
      · rw [← changed,same]
        exact sound.usedCustomers _ (List.mem_of_find?_eq_some found)
      · exact changed ▸ sound.usedCustomers _ present
  | createCustomer draft =>
    rcases create_customer_cases outside choice s draft with ⟨code,served⟩ | ⟨_,served⟩
    · rw [served]
      exact .refl s
    · rw [served]
      refine ⟨⟨rfl,rfl,List.subset_cons_self _ _,fun sound => ⟨?_,?_,?_,?_,sound.5⟩⟩,rfl⟩
      · intro c member
        rcases List.mem_append.mp member with earlier | added
        · exact List.mem_cons_of_mem _ (sound.usedCustomers c earlier)
        · rw [List.mem_singleton.mp added]
          exact List.mem_cons_self
      · exact fun c member => (sound.usedCarts c member).imp (List.mem_cons_of_mem _) (List.mem_cons_of_mem _)
      · exact fun p member => List.mem_cons_of_mem _ (sound.usedPayments p member)
      · exact fun p member id payer => List.mem_cons_of_mem _ (sound.usedPayers p member id payer)
  | updateOrderById orderId version actions =>
    rcases update_order_cases outside choice version s orderId actions with ⟨code,served⟩ | ⟨order,updated,changed,served⟩
    · rw [served]
      exact .refl s
    · rw [served]
      refine ⟨⟨rfl,?_,List.Subset.refl _,fun sound => ⟨sound.1,sound.2,sound.3,sound.4,sound.5⟩⟩,rfl⟩
      simp only [sales,List.map_map]
      refine List.map_congr_left fun other _ => ?_
      simp only [Function.comp]
      split
      · rename_i same
        rw [same,sale_kept changed]
      · rfl
  | orderNumber request => exact idle_counter s _
  | _ => exact .refl s

theorem delete_still {outside : Outside} {choice : Choice} (cartId : String) (version : Nat) (s : Store ι) :
    Still s (serve outside choice (.deleteCartById cartId version) s).2 := by
  rcases delete_cart_cases outside choice cartId version s with ⟨code,served⟩ | ⟨_,_,_,served⟩
  · rw [served]
    exact (Idle.refl s).still
  · rw [served]
    exact ⟨rfl,rfl,List.Subset.refl _,fun sound =>
      ⟨sound.1,fun c member => sound.usedCarts c (List.mem_filter.mp member).1,sound.3,sound.4,sound.5⟩⟩

end Standing

section Answers
variable {ι : Type}

structure Turn where
  choice : Choice
  lost : Bool
  year : Option OrderNumber.Year

-- A call may fail before it has taken effect and after.
def answer (outside : Outside) (turn : Turn) (r : Request ι) (s : Store ι) : Response r × Store ι :=
  let (answer,t) := serve outside turn.choice r s
  (if turn.lost then (serve outside ⟨false,""⟩ r s).1 else answer,(turn.year.bind (advanceClock · t)).getD t)

abbrev Buys {ε α : Type} (outside : Outside) (post : Except ε α → Store ι → Prop) (p : Prog (Request ι) Response ε α)
    (s : Store ι) : Prop := p.wp (answer outside) (fun _ _ _ => True) post s

theorem clock_counter (year : Option OrderNumber.Year) (t : Store ι) :
    ∃ counter, (year.bind (advanceClock · t)).getD t = {t with counter} := by
  cases year with
  | none => exact ⟨t.counter,rfl⟩
  | some year =>
    cases moved : OrderNumber.advanceClock year t.counter with
    | none => exact ⟨t.counter,by simp [advanceClock,moved]⟩
    | some counter => exact ⟨counter,by simp [advanceClock,moved]⟩

theorem answer_store (outside : Outside) (turn : Turn) (r : Request ι) (s : Store ι) :
    Idle (serve outside turn.choice r s).2 (answer outside turn r s).2 := by
  obtain ⟨counter,moved⟩ := clock_counter turn.year (serve outside turn.choice r s).2
  simp only [answer,moved]
  exact idle_counter _ counter

theorem answer_cases (outside : Outside) (turn : Turn) (r : Request ι) (s : Store ι) :
    (answer outside turn r s).1 = (serve outside turn.choice r s).1 ∨
      (answer outside turn r s).1 = (serve outside ⟨false,""⟩ r s).1 := by
  cases turn with
  | mk choice lost year =>
    cases lost with
    | false => exact .inl rfl
    | true => exact .inr rfl

variable {ε α β : Type} {outside : Outside} {s t u : Store ι}

theorem idle_buys {raised : ε → Prop} {p : Prog (Request ι) Response ε α} (within : p.Within (idle · = true) raised)
    (s : Store ι) : Buys outside (fun _ t => Idle s t) p s :=
  Prog.wp_mono (Prog.wp_within Idle Idle.refl (fun _ _ _ => Idle.trans)
    (fun turn r s unrelated => (idle_step unrelated s).trans (answer_store outside turn r s)) within s) fun _ _ ends => ends.1

def Ends (good : α → Store ι → Prop) (bad : Store ι → Prop) : Except ε α → Store ι → Prop
  | .ok a,t => good a t
  | .error _,t => bad t

theorem buys_mono {good better : α → Store ι → Prop} {bad worse : Store ι → Prop} {p : Prog (Request ι) Response ε α}
    (holds : Buys outside (Ends good bad) p s) (done : ∀ a t, good a t → better a t) (failed : ∀ t, bad t → worse t) :
    Buys outside (Ends better worse) p s :=
  Prog.wp_mono holds fun out t ends => by
    cases out with
    | ok a => exact done a t ends
    | error e => exact failed t ends

theorem ask_buys (r : Request ι) (view : Response r → Except ErrorCode α) {good : α → Store ι → Prop}
    (fails : ∀ now, ∃ code, view (serve outside ⟨false,""⟩ r now).1 = .error code) (ready : Store ι → Prop) (start : ready s)
    (stays : ∀ now, ready now → ∀ turn, ready (answer outside turn r now).2)
    (done : ∀ now, ready now → ∀ turn a, view (serve outside turn.choice r now).1 = .ok a → good a (answer outside turn r now).2) :
    Buys outside (Ends good ready) (conditionalRetry (.expect .commercetoolsError (.call r fun x => .pure (view x)))) s := by
  refine Prog.wp_retry ready _ 2 start ?_
  intro now holds turn _
  have stays := stays now holds turn
  cases result : view (answer outside turn r now).1 with
  | ok a =>
    simp only [Prog.bind,result]
    refine done now holds turn a ?_
    rcases answer_cases outside turn r now with given | given
    · rw [← given]
      exact result
    · obtain ⟨code,failed⟩ := fails now
      rw [given,failed] at result
      cases result
  | error code =>
    simp only [Prog.bind,result]
    exact ⟨stays,stays⟩

theorem idle_stays (outside : Outside) (r : Request ι) (unrelated : idle r = true) (turn : Turn) (now : Store ι)
    (idle : Idle s now) : Idle s (answer outside turn r now).2 :=
  (idle.trans (idle_step unrelated now)).trans (answer_store outside turn r now)

theorem query_counter (outside : Outside) (turn : Turn) (r : Request ι) (s : Store ι)
    (same : (serve outside turn.choice r s).2 = s) : ∃ counter, (answer outside turn r s).2 = {s with counter} := by
  obtain ⟨counter,moved⟩ := clock_counter turn.year (serve outside turn.choice r s).2
  exact ⟨counter,by rw [same] at moved; simp only [answer,same,moved]⟩

theorem query_answered (outside : Outside) (turn : Turn) (r : Request ι) (s : Store ι) (down whole : Response r)
    (served : ∀ choice, (serve outside choice r s).1 = if choice.answers then whole else down) :
    (answer outside turn r s).1 = down ∨ (answer outside turn r s).1 = whole := by
  rcases answer_cases outside turn r s with given | given
  · rw [given,served]
    cases turn.choice.answers with
    | false => exact .inl rfl
    | true => exact .inr rfl
  · exact .inl (given.trans (served _))

theorem get_customer_buys (user : User) (s : Store ι) :
    Buys outside (fun out t => Idle s t ∧ ∀ found, out = .ok found → found = customerOf user s)
      (getCustomerByLmsUserId user.lmsUserId : Call ι _) s := by
  unfold customerOf
  rcases user.lmsUserId with _ | _ | id
  · exact ⟨.refl s,fun _ never => by cases never⟩
  · exact ⟨.refl s,fun _ never => by cases never⟩
  refine Prog.wp_retry (fun now => Idle s now ∧ now.customers = s.customers) _ 2 ⟨.refl s,rfl⟩ ?_
  intro now ready turn _
  obtain ⟨idle,same⟩ := ready
  obtain ⟨counter,moved⟩ := query_counter outside turn (.queryCustomers (toString (id+1))) now rfl
  have later := idle.trans (idle_counter now counter)
  rw [moved]
  rcases query_answered outside turn (.queryCustomers (toString (id+1))) now _ _ (fun _ => rfl) with given | given
  · rw [given]
    exact ⟨⟨later,fun _ never => by cases never⟩,later,same⟩
  · rw [same] at given
    rw [given,Option.bind_some,← List.head?_filter]
    generalize s.customers.filter (·.lmsUserId = toString (id+1)) = listed
    rcases listed with _ | ⟨customer,_ | ⟨other,rest⟩⟩
    · exact ⟨later,fun found same => by cases same; rfl⟩
    · exact ⟨later,fun found same => by cases same; rfl⟩
    · exact ⟨⟨later,fun _ never => by cases never⟩,later,same⟩

def CustomerFor (user : User) (s : Store ι) (customerId : String) : Prop :=
  (∃ customer, customerOf user s = some customer ∧ customer.id = customerId) ∨
    customerOf user s = none ∧ customerId ∉ s.usedIds

theorem customer_stored (sound : Sound s) (found : customerOf user s = some customer) : customer.id ∈ s.usedIds := by
  obtain ⟨id,_,known⟩ := Option.bind_eq_some_iff.mp found
  exact sound.usedCustomers customer (List.mem_of_find?_eq_some known)

theorem customer_update_id {choice : Choice} {updates : List CustomerUpdateAction}
    (served : (serve outside choice (.updateCustomerById customerId version updates) s).1 = .ok updated) :
    updated.id = customerId := by
  rcases update_customer_cases outside choice version s customerId updates with ⟨code,failed⟩ | ⟨customer,_,found,same,updates⟩
  · rw [failed] at served
    cases served
  · rw [updates] at served
    cases served
    exact same.trans (by simpa using List.find?_some found)

theorem update_customer_buys (customer : Customer) (updates : List CustomerUpdateAction) (s : Store ι) :
    Buys outside (Ends (fun updated t => Idle s t ∧ updated.id = customer.id) (Idle s))
      (updateCustomer customer updates : Call ι Customer) s := by
  refine ask_buys (.updateCustomerById customer.id customer.version updates) (fun x => x) (fun _ => ⟨_,rfl⟩) (Idle s) (.refl s)
    (fun now idle turn => idle_stays outside _ rfl turn now idle) ?_
  intro now idle turn updated served
  exact ⟨idle_stays outside _ rfl turn now idle,customer_update_id served⟩

theorem customer_create_id {choice : Choice} {draft : CustomerDraft}
    (served : (serve outside choice (.createCustomer draft) s).1 = .ok customer) :
    customer.id ∉ s.usedIds ∧ customer.id ∈ (serve outside choice (.createCustomer draft) s).2.usedIds := by
  rcases create_customer_cases outside choice s draft with ⟨code,failed⟩ | ⟨fresh,created⟩
  · rw [failed] at served
    cases served
  · rw [created] at served ⊢
    cases served
    exact ⟨fresh,List.mem_cons_self⟩

theorem create_customer_buys (email firstName lastName lmsUserId lmsUserName : String) (s : Store ι) :
    Buys outside (Ends (fun customer t => Idle s t ∧ customer.id ∉ s.usedIds ∧ customer.id ∈ t.usedIds) (Idle s))
      (createCustomer email firstName lastName lmsUserId lmsUserName : Call ι Customer) s := by
  refine ask_buys (.createCustomer ⟨email,firstName,lastName,true,lmsUserId,lmsUserName⟩) (fun x => x) (fun _ => ⟨_,rfl⟩)
    (Idle s) (.refl s) (fun now idle turn => idle_stays outside _ rfl turn now idle) ?_
  intro now idle turn customer served
  obtain ⟨fresh,used⟩ := customer_create_id served
  exact ⟨idle_stays outside _ rfl turn now idle,fun earlier => fresh (idle.still.used earlier),
    (answer_store outside turn _ now).still.used used⟩

theorem get_ct_customer_buys (user : User) (sound : Sound s) :
    Buys outside (Ends (fun customer t => Idle s t ∧ CustomerFor user s customer.id ∧ customer.id ∈ t.usedIds) (Idle s))
      (getCtCustomer user : Call ι Customer) s := by
  refine Prog.wp_seq _ (get_customer_buys user s) (fun e t ends => ends.1) ?_
  intro found t ends
  obtain ⟨idle,same⟩ := ends
  cases found with
  | none =>
    refine Prog.wp_mono (create_customer_buys _ _ _ _ _ t) fun out u ends => ?_
    cases out with
    | error e => exact idle.trans ends
    | ok customer => exact ⟨idle.trans ends.1,.inr ⟨(same none rfl).symm,fun used => ends.2.1 (idle.still.used used)⟩,ends.2.2⟩
  | some customer =>
    have known := (same _ rfl).symm
    have used := idle.still.used (customer_stored sound known)
    dsimp only
    split
    · refine Prog.wp_mono (update_customer_buys customer _ t) fun out u ends => ?_
      cases out with
      | error e => exact idle.trans ends
      | ok updated =>
        refine ⟨idle.trans ends.1,?_⟩
        rw [ends.2]
        exact ⟨.inl ⟨customer,known,rfl⟩,ends.1.still.used used⟩
    · exact ⟨idle,.inl ⟨customer,known,rfl⟩,used⟩

theorem cart_answered {choice : Choice} (served : (serve outside choice (.getCartByCustomerId customerId) s).1 = .ok cart) :
    currentCart s customerId = some cart := by
  rcases get_cart_cases outside choice s customerId with ⟨code,failed⟩ | ⟨stored,found,answered⟩
  · rw [failed] at served
    cases served
  · rw [answered] at served
    cases served
    exact found

theorem get_customer_cart_buys (customerId : String) (s : Store ι) :
    Buys outside (Ends (fun cart t => Idle s t ∧ ∀ old, cart = some old → currentCart s customerId = some old) (Idle s))
      (getCustomerCart customerId : Call ι _) s := by
  refine Prog.wp_retry (Idle s) _ 2 (.refl s) ?_
  intro now idle turn _
  have later := idle_stays outside (.getCartByCustomerId customerId) rfl turn now idle
  cases result : (answer outside turn (.getCartByCustomerId customerId) now).1 with
  | error code =>
    cases code with
    | resourceNotFound => exact ⟨later,fun old never => by cases never⟩
    | _ => exact ⟨later,later⟩
  | ok cart =>
    refine ⟨later,fun old same => ?_⟩
    cases same
    rcases answer_cases outside turn (.getCartByCustomerId customerId) now with given | given
    · have found := cart_answered (given.symm.trans result)
      unfold currentCart at found ⊢
      rw [idle.carts] at found
      exact found
    · cases given.symm.trans result

structure Cleared (old : Option Cart) (s t : Store ι) : Prop where
  still : Still s t
  carts : ∀ c ∈ s.carts, c ∈ t.carts ∨ ∃ cart ∈ old, cart.id = c.id

theorem Idle.cleared (idle : Idle s t) (old : Option Cart) : Cleared old s t :=
  ⟨idle.still,fun _ member => .inl (idle.carts.symm ▸ member)⟩

theorem Cleared.later (cleared : Cleared old s t) (still : Still t u) (kept : ∀ c ∈ t.carts, c ∈ u.carts) : Cleared old s u :=
  ⟨cleared.still.trans still,fun c member => (cleared.carts c member).imp_left (kept c)⟩

theorem Cleared.idle (cleared : Cleared old s t) (idle : Idle t u) : Cleared old s u :=
  cleared.later idle.still fun _ member => idle.carts.symm ▸ member

theorem Cleared.after (cleared : Cleared old t u) (idle : Idle s t) : Cleared old s u :=
  ⟨idle.still.trans cleared.still,fun c member => cleared.carts c (idle.carts.symm ▸ member)⟩

theorem delete_carts {choice : Choice} (cartId : String) (version : Nat) (s : Store ι) :
    ∀ c ∈ s.carts, c ∈ (serve outside choice (.deleteCartById cartId version) s).2.carts ∨ cartId = c.id := by
  intro c member
  rcases delete_cart_cases outside choice cartId version s with ⟨code,served⟩ | ⟨_,_,_,served⟩
  · rw [served]
    exact .inl member
  · rw [served]
    by_cases same : cartId = c.id
    · exact .inr same
    · exact .inl (List.mem_filter.mpr ⟨member,decide_eq_true (Ne.symm same)⟩)

theorem delete_buys (cart : Cart) (s : Store ι) :
    Buys outside (fun _ => Cleared (some cart) s) (deleteCart cart : Call ι Unit) s := by
  refine Prog.wp_retry (Cleared (some cart) s) _ 2 ((Idle.refl s).cleared _) ?_
  intro now cleared turn _
  have removed : Cleared (some cart) s (serve outside turn.choice (.deleteCartById cart.id cart.version) now).2 := by
    refine ⟨cleared.still.trans (delete_still _ _ now),fun c member => ?_⟩
    rcases cleared.carts c member with kept | gone
    · exact (delete_carts cart.id cart.version now c kept).imp_right fun same => ⟨cart,rfl,same⟩
    · exact .inr gone
  have later := removed.idle (answer_store outside turn (.deleteCartById cart.id cart.version) now)
  cases (answer outside turn (.deleteCartById cart.id cart.version) now).1 with
  | ok deleted => exact later
  | error code => exact ⟨later,later⟩

theorem delete_existing_buys (old : Option Cart) (s : Store ι) :
    Buys outside (fun _ => Cleared old s) (deleteExistingCart old : Call ι Unit) s := by
  cases old with
  | none => exact (Idle.refl s).cleared none
  | some cart => exact delete_buys cart s

-- The cart in the variable, unless a call has changed it and its answer was lost.
structure Holds (customerId : String) (price : CentPrecisionMoney) (payments : List String) (cart : Cart) (s : Store ι) : Prop where
  customer : cart.customerId = customerId
  total : cart.totalPrice = price
  payments : cart.payments = payments
  current : ∀ c ∈ s.carts, c.id = cart.id → c.version = cart.version → c = cart

theorem create_cart_still (outside : Outside) (choice : Choice) {draft : CartDraft} (used : draft.customerId ∈ s.usedIds) :
    Still s (serve outside choice (.createCart draft) s).2 ∧
      ∀ c ∈ s.carts, c ∈ (serve outside choice (.createCart draft) s).2.carts := by
  rcases create_cart_cases outside choice s draft with ⟨code,served⟩ | ⟨_,served⟩
  · rw [served]
    exact ⟨(Idle.refl s).still,fun _ member => member⟩
  · rw [served]
    refine ⟨⟨rfl,rfl,List.subset_cons_self _ _,fun sound => ⟨?_,?_,?_,?_,sound.5⟩⟩,fun c member => List.mem_append_left _ member⟩
    · exact fun c member => List.mem_cons_of_mem _ (sound.usedCustomers c member)
    · intro c member
      rcases List.mem_append.mp member with earlier | added
      · exact (sound.usedCarts c earlier).imp (List.mem_cons_of_mem _) (List.mem_cons_of_mem _)
      · rw [List.mem_singleton.mp added]
        exact ⟨List.mem_cons_self,List.mem_cons_of_mem _ used⟩
    · exact fun p member => List.mem_cons_of_mem _ (sound.usedPayments p member)
    · exact fun p member id payer => List.mem_cons_of_mem _ (sound.usedPayers p member id payer)

theorem cart_created {choice : Choice} {draft : CartDraft} (sound : Sound s)
    (served : (serve outside choice (.createCart draft) s).1 = .ok cart) :
    Holds draft.customerId draft.externalPrice [] cart (serve outside choice (.createCart draft) s).2 := by
  rcases create_cart_cases outside choice s draft with ⟨code,failed⟩ | ⟨fresh,created⟩
  · rw [failed] at served
    cases served
  · rw [created] at served ⊢
    cases served
    refine ⟨rfl,rfl,rfl,fun c member same _ => ?_⟩
    rcases List.mem_append.mp member with earlier | added
    · have taken := (sound.usedCarts c earlier).1
      rw [same] at taken
      exact absurd taken fresh
    · exact List.mem_singleton.mp added

theorem Holds.idle {listed : List String} (holds : Holds customerId price listed cart s) (idle : Idle s t) :
    Holds customerId price listed cart t :=
  ⟨holds.1,holds.2,holds.3,by rw [idle.carts]; exact holds.4⟩

structure Shopping (old : Option Cart) (customerId : String) (s t : Store ι) : Prop where
  cleared : Cleared old s t
  used : customerId ∈ t.usedIds

theorem Shopping.idle (shopping : Shopping old customerId s t) (idle : Idle t u) : Shopping old customerId s u :=
  ⟨shopping.cleared.idle idle,idle.still.used shopping.used⟩

theorem create_cart_buys (courseRunKey : String) (customer : Customer) (emailDomain : String)
    (externalPrice : CentPrecisionMoney) (orderNumber : String) (sound : Sound s) (shopping : Shopping old customer.id s t) :
    Buys outside (Ends (fun cart u => Shopping old customer.id s u ∧ Holds customer.id externalPrice [] cart u)
      (Shopping old customer.id s)) (createCart courseRunKey customer emailDomain externalPrice orderNumber : Call ι Cart) t := by
  have stays : ∀ draft : CartDraft, draft.customerId = customer.id → ∀ now, Shopping old customer.id s now → ∀ turn,
      Shopping old customer.id s (answer outside turn (.createCart draft) now).2 := by
    intro draft same now shopping turn
    obtain ⟨still,kept⟩ := create_cart_still outside turn.choice (same.symm ▸ shopping.used)
    exact Shopping.idle ⟨shopping.cleared.later still kept,still.used shopping.used⟩ (answer_store outside turn _ now)
  refine ask_buys (.createCart ⟨customer.id,customer.email,externalPrice.currencyCode,courseRunKey,externalPrice,"UNDEFINED",
    orderNumber,emailDomain,true⟩) (fun x => x) (fun _ => ⟨_,rfl⟩) (Shopping old customer.id s) shopping (stays _ rfl) ?_
  intro now shopping turn cart served
  exact ⟨stays _ rfl now shopping turn,
    (cart_created (shopping.cleared.still.sound sound) served).idle (answer_store outside turn _ now)⟩

theorem order_number_within (caller : ι) :
    (getNewOrderNumber caller : Call ι String).Within (idle · = true) fun _ => True :=
  Prog.Within.embed (Prog.Within.all (fun _ => rfl) (fun _ => trivial) _)

theorem standalone_price_buys (sku : String) (s : Store ι) :
    Buys outside (fun out t => Idle s t ∧ ∀ price, out = .ok price → (outside.standalonePrices sku).head? = some price)
      (getStandalonePriceForSku sku : Call ι CentPrecisionMoney) s := by
  intro turn _
  have idle := idle_stays outside (.getStandalonePrices sku) rfl turn s (.refl s)
  rcases query_answered outside turn (.getStandalonePrices sku) s _ _ (fun _ => rfl) with given | given
  · rw [given]
    exact ⟨idle,fun price never => by cases never⟩
  · rw [given]
    cases outside.standalonePrices sku with
    | nil => exact ⟨idle,fun price never => by cases never⟩
    | cons first rest => exact ⟨idle,fun price same => by cases same; rfl⟩

def Found (transactionId : String) (s : Store ι) (payment : Option MobileStore.Payment) : Prop :=
  payment = (s.payments.filter (transactionId ∈ ·.interactionIds)).head? ∧
    ∀ left ∈ payment, ∀ cart ∈ s.carts, left.id ∉ cart.payments

theorem check_existing_buys (transactionId : String) (s : Store ι) :
    Buys outside (fun out t => Idle s t ∧ ∀ payment, out = .ok payment → Found transactionId s payment)
      (checkExistingPayment transactionId : IapCall ι _) s := by
  intro turn _
  have idle := idle_stays outside (.queryPayments transactionId) rfl turn s (.refl s)
  generalize (answer outside turn (.queryPayments transactionId) s).2 = t at idle
  rcases query_answered outside turn (.queryPayments transactionId) s _ _ (fun _ => rfl) with given | given
  · rw [given]
    exact ⟨idle,fun payment never => by cases never⟩
  · rw [given]
    unfold Found
    generalize s.payments.filter (transactionId ∈ ·.interactionIds) = results
    cases results with
    | nil => exact ⟨idle,fun payment same => by cases same; exact ⟨rfl,fun left never => by cases never⟩⟩
    | cons payment rest =>
      intro turn _
      have later := idle_stays outside (.queryCarts payment.id) rfl turn t idle
      rcases query_answered outside turn (.queryCarts payment.id) t _ _ (fun _ => rfl) with given | given
      · rw [given]
        exact ⟨later,fun payment never => by cases never⟩
      · rw [given,idle.carts]
        cases attached : s.carts.filter (payment.id ∈ ·.payments) with
        | cons cart others => exact ⟨later,fun payment never => by cases never⟩
        | nil =>
          refine ⟨later,fun found same => ?_⟩
          cases same
          refine ⟨rfl,fun left same cart member listed => ?_⟩
          cases same
          exact List.filter_eq_nil_iff.mp attached cart member (decide_eq_true listed)

theorem validation_buys (r : Request ι) (view : Response r → Except String α) (down whole : Response r)
    (unrelated : idle r = true) (fails : ∀ a, view down ≠ .ok a)
    (served : ∀ choice now, (serve outside choice r now).1 = if choice.answers then whole else down) (s : Store ι) :
    Buys outside (fun out t => Idle s t ∧ ∀ a, out = .ok a → view whole = .ok a)
      (retryValidation (.call r fun x => .pure (view x)) : IapCall ι α) s := by
  refine Prog.wp_retry (Idle s) _ 2 (.refl s) ?_
  intro now idle turn _
  have later := idle_stays outside r unrelated turn now idle
  cases result : view (answer outside turn r now).1 with
  | error e =>
    simp only [Prog.bind,result]
    exact ⟨⟨later,fun a never => by cases never⟩,later⟩
  | ok a =>
    simp only [Prog.bind,result]
    refine ⟨later,fun other same => ?_⟩
    cases same
    rcases query_answered outside turn r now down whole (fun choice => served choice now) with failed | given
    · rw [failed] at result
      exact absurd result (fails _)
    · rw [given] at result
      exact result

def Validates (transactionId : Option String) (s : Store ι) (response : ValidationResponse) : Prop :=
  ∃ id ∈ transactionId, Found id s response.payment

theorem android_buys (purchase : GooglePlayPurchase) (s : Store ι) :
    Buys outside (fun out t => Idle s t ∧ ∀ response, out = .ok response → Validates (androidTransaction purchase) s response)
      (handleAndroidValidation purchase : IapCall ι _) s := by
  unfold handleAndroidValidation
  dsimp only
  split
  · exact ⟨.refl s,fun _ never => by cases never⟩
  · rename_i named
    split
    · exact ⟨.refl s,fun _ never => by cases never⟩
    · rename_i uncancelled
      rw [if_neg (by simp [isExpired])]
      refine Prog.wp_seq _ (check_existing_buys (purchase.orderId.getD "") s)
        (fun e t ends => ⟨ends.1,fun _ never => by cases never⟩) ?_
      intro payment t ends
      cases created : purchase.purchaseTimeMillis with
      | none => exact ⟨ends.1,fun _ never => by cases never⟩
      | some createdAt =>
        refine ⟨ends.1,fun response same => ?_⟩
        cases same
        refine ⟨purchase.orderId.getD "",?_,ends.2 payment rfl⟩
        unfold androidTransaction
        rw [if_neg (by simp [uncancelled,created])]
        cases identified : purchase.orderId with
        | none => simp [identified] at named
        | some id => simpa [identified] using named

theorem ios_buys (receipt : AppStoreReceipt) (price : Int) (cartId : String) (s : Store ι) :
    Buys outside (fun out t => Idle s t ∧ ∀ response, out = .ok response → Validates (iosTransaction price receipt) s response)
      (handleIosValidation receipt price cartId : IapCall ι _) s := by
  unfold handleIosValidation
  split
  · exact ⟨.refl s,fun _ never => by cases never⟩
  · split
    · exact ⟨.refl s,fun _ never => by cases never⟩
    · rename_i purchase latest
      dsimp only
      split
      · exact ⟨.refl s,fun _ never => by cases never⟩
      · rename_i uncancelled
        refine Prog.wp_seq _ (check_existing_buys purchase.originalTransactionId s)
          (fun e t ends => ⟨ends.1,fun _ never => by cases never⟩) ?_
        intro payment t ends
        cases created : receipt.receiptCreationDate with
        | none => exact ⟨ends.1,fun _ never => by cases never⟩
        | some createdAt =>
          refine ⟨ends.1,fun response same => ?_⟩
          cases same
          refine ⟨purchase.originalTransactionId,?_,ends.2 payment rfl⟩
          unfold iosTransaction
          rw [if_neg (by simp [created]),latest]
          simpa [Option.filter] using uncancelled

theorem validate_iap_buys (request : MobileOrderRequest) (cartId : String) (price : Int) (s : Store ι) :
    Buys outside (fun out t => Idle s t ∧ ∀ response, out = .ok response → Validates (validatedId outside request price) s response)
      (validateIap request.paymentProcessor request.purchaseToken cartId price : IapCall ι _) s := by
  have moved : ∀ {t : Store ι} {id : Option String} {response : ValidationResponse}, Idle s t →
      Validates id t response → Validates id s response := by
    intro t id response idle validates
    obtain ⟨transactionId,known,found⟩ := validates
    unfold Found at found
    rw [idle.carts,idle.still.payments] at found
    exact ⟨transactionId,known,found⟩
  unfold validateIap validatedId
  split
  · refine Prog.wp_seq _ (validation_buys (.validateGooglePlay (getConsumableAndroidSku price) request.purchaseToken)
      (fun x => x) (.error "unavailable") (outside.googlePlay (getConsumableAndroidSku price) request.purchaseToken) rfl
      (fun _ never => (by cases never)) (fun _ _ => rfl) s) (fun e t ends => ⟨ends.1,fun _ never => by cases never⟩) ?_
    intro purchase t ends
    obtain ⟨idle,given⟩ := ends
    rw [given purchase rfl]
    refine Prog.wp_mono (android_buys purchase t) fun out u ends => ?_
    exact ⟨idle.trans ends.1,fun response same => moved idle (ends.2 response same)⟩
  · split
    · refine Prog.wp_seq _ (validation_buys (.validateAppStore request.purchaseToken) (fun x => x)
        (.error "unavailable") (outside.appStore request.purchaseToken) rfl (fun _ never => (by cases never)) (fun _ _ => rfl) s)
        (fun e t ends => ⟨ends.1,fun _ never => by cases never⟩) ?_
      intro receipt t ends
      obtain ⟨idle,given⟩ := ends
      rw [given receipt rfl]
      refine Prog.wp_mono (ios_buys receipt price cartId t) fun out u ends => ?_
      exact ⟨idle.trans ends.1,fun response same => moved idle (ends.2 response same)⟩
    · exact ⟨.refl s,fun _ never => by cases never⟩

theorem payment_info_buys (request : MobileOrderRequest) (cartId : String) (price : Int) (s : Store ι) :
    Buys outside (fun out t => Idle s t ∧ ∀ response, out = .ok (.accepted response) →
        Validates (validatedId outside request price) s response)
      (getPaymentInfoFromPurchaseToken request.paymentProcessor request.purchaseToken cartId price : Call ι PaymentInfo) s := by
  unfold getPaymentInfoFromPurchaseToken
  split
  · exact ⟨.refl s,fun _ never => by cases never⟩
  · refine Prog.wp_seq (fun out t => Idle s t ∧ ∀ answer response, out = .ok answer → answer = .ok response →
      Validates (validatedId outside request price) s response) ?_ (fun e t ends => ⟨ends.1,fun _ never => by cases never⟩) ?_
    · refine Prog.wp_attempt.mpr (Prog.wp_mono (validate_iap_buys request cartId price s) fun out t ends => ⟨ends.1,?_⟩)
      intro answer response same known
      cases same
      exact ends.2 response known
    · intro answer t ends
      cases answer with
      | ok response => exact ⟨ends.1,fun other same => by cases same; exact ends.2 _ response rfl rfl⟩
      | error error => exact ⟨ends.1,fun other same => by cases error <;> cases same⟩

end Answers

section Order
variable {ι : Type} {currencies : String → Option Nat} {sent : Post ι} {s t u : Store ι} {customerId : String}
  {price : CentPrecisionMoney} {payment : MobileStore.Payment} {cart : Cart}

def Chosen (s : Store ι) (sent : Post ι) (customerId : String) (price : CentPrecisionMoney) (payment : MobileStore.Payment) : Prop :=
  Reuses s sent payment ∨
    (∀ other, ¬ Reuses s sent other) ∧ payment.customerId = some customerId ∧ payment.amountPlanned = price

structure Payable (currencies : String → Option Nat) (s : Store ι) (sent : Post ι) (customerId : String) (price : CentPrecisionMoney)
    (payment : MobileStore.Payment) (t : Store ι) : Prop where
  payments : s.payments <+: t.payments
  sound : Sound t
  priced : externalPriceOf currencies sent.request.data = (.pure price : Call ι CentPrecisionMoney)
  customer : CustomerFor sent.user s customerId
  listed : payment ∈ t.payments
  chosen : Chosen s sent customerId price payment

structure Outcome (currencies : String → Option Nat) (s : Store ι) (sent : Post ι) (t : Store ι) : Prop where
  payments : s.payments <+: t.payments
  sound : Sound t
  sold : sales t = sales s ∨ ∃ customerId price payment, Payable currencies s sent customerId price payment t ∧
    sales t = sales s++[⟨customerId,price,[payment.id]⟩]

theorem Payable.later (payable : Payable currencies s sent customerId price payment t) (still : Still t u) :
    Payable currencies s sent customerId price payment u :=
  ⟨still.payments.symm ▸ payable.payments,still.sound payable.sound,payable.priced,payable.customer,
    still.payments.symm ▸ payable.listed,payable.chosen⟩

theorem Outcome.later (outcome : Outcome currencies s sent t) (still : Still t u) : Outcome currencies s sent u := by
  refine ⟨still.payments.symm ▸ outcome.payments,still.sound outcome.sound,?_⟩
  rw [still.sales]
  rcases outcome.sold with unsold | ⟨customerId,price,payment,payable,sold⟩
  · exact .inl unsold
  · exact .inr ⟨customerId,price,payment,payable.later still,sold⟩

theorem Still.outcome (still : Still s t) (sound : Sound s) : Outcome currencies s sent t :=
  ⟨still.payments ▸ List.prefix_rfl,still.sound sound,.inl still.sales⟩

theorem found_reuses (sound : Sound s) (customer : CustomerFor sent.user s customerId) (cleared : Cleared old s t)
    (looked : ∀ cart, old = some cart → currentCart s customerId = some cart)
    (priced : (sent.outside.standalonePrices sent.request.data.courseRunKey).head? = some price)
    (validates : Validates (validatedId sent.outside sent.request (price.centAmount.tdiv 100)) t response) :
    match response.payment with
      | some payment => payment ∈ t.payments ∧ Reuses s sent payment
      | none => ∀ other, ¬ Reuses s sent other := by
  obtain ⟨transactionId,known,found,left⟩ := validates
  rw [cleared.still.payments] at found
  cases result : response.payment with
  | none =>
    intro other reuses
    obtain ⟨price',priced',id',known',found',_⟩ := reuses
    cases Option.mem_unique priced priced'
    cases Option.mem_unique known known'
    rw [result,found'] at found
    cases found
  | some payment =>
    rw [result] at found left
    have listed := (List.mem_filter.mp (List.mem_of_mem_head? found.symm)).1
    refine ⟨cleared.still.payments.symm ▸ listed,price,priced,transactionId,known,found.symm,fun cart member attached => ?_⟩
    rcases cleared.carts cart member with kept | ⟨older,gone,same⟩
    · exact absurd attached (left payment rfl cart kept)
    · have current := looked older gone
      rcases customer with ⟨customer,registered,rfl⟩ | ⟨_,fresh⟩
      · exact ⟨older,by rw [registered]; exact current,same⟩
      · obtain ⟨stored,owned⟩ := List.mem_filter.mp (List.mem_of_getLast? current)
        have owner : older.customerId = customerId := (of_decide_eq_true owned).1
        exact absurd (owner ▸ (sound.usedCarts older stored).2) fresh

theorem payment_added {choice : Choice} {draft : PaymentDraft} (sound : Sound s) (fresh : choice.id ∉ s.usedIds)
    (payer : draft.customerId ∈ s.usedIds) :
    Sound {s with payments := s.payments++[paymentOf choice.id draft], usedIds := choice.id::s.usedIds} := by
  refine ⟨fun c member => List.mem_cons_of_mem _ (sound.usedCustomers c member),
    fun c member => (sound.usedCarts c member).imp (List.mem_cons_of_mem _) (List.mem_cons_of_mem _),?_,?_,?_⟩
  · intro p member
    rcases List.mem_append.mp member with earlier | added
    · exact List.mem_cons_of_mem _ (sound.usedPayments p earlier)
    · rw [List.mem_singleton.mp added]
      exact List.mem_cons_self
  · intro p member id known
    rcases List.mem_append.mp member with earlier | added
    · exact List.mem_cons_of_mem _ (sound.usedPayers p earlier id known)
    · rw [List.mem_singleton.mp added] at known
      cases known
      exact List.mem_cons_of_mem _ payer
  · have apart : ∀ p ∈ s.payments, p.id ≠ choice.id := fun p member same => fresh (same ▸ sound.usedPayments p member)
    intro p member q other same
    rcases List.mem_append.mp member with earlier | added <;> rcases List.mem_append.mp other with earlier' | added'
    · exact sound.paymentIds p earlier q earlier' same
    · rw [List.mem_singleton.mp added'] at same
      exact absurd same (apart p earlier)
    · rw [List.mem_singleton.mp added] at same
      exact absurd same.symm (apart q earlier')
    · rw [List.mem_singleton.mp added,List.mem_singleton.mp added']

structure Unsold (customerId : String) (price : CentPrecisionMoney) (listed : List String) (cart : Cart) (s t : Store ι) : Prop where
  payments : s.payments <+: t.payments
  sound : Sound t
  sales : sales t = sales s
  used : customerId ∈ t.usedIds
  holds : Holds customerId price listed cart t

theorem Unsold.idle {listed : List String} (unsold : Unsold customerId price listed cart s t) (idle : Idle t u) :
    Unsold customerId price listed cart s u :=
  ⟨idle.still.payments.symm ▸ unsold.payments,idle.still.sound unsold.sound,idle.still.sales.trans unsold.sales,
    idle.still.used unsold.used,unsold.holds.idle idle⟩

theorem Unsold.outcome {listed : List String} (unsold : Unsold customerId price listed cart s t) :
    Outcome currencies s sent t := ⟨unsold.payments,unsold.sound,.inl unsold.sales⟩

theorem create_payment_buys {outside : Outside} (draft : PaymentDraft) (payer : draft.customerId = customerId)
    (amount : draft.amountPlanned = price) (unsold : Unsold customerId price [] cart s t) :
    Buys outside (Ends (fun payment u => Unsold customerId price [] cart s u ∧ payment ∈ u.payments ∧
        payment.customerId = some customerId ∧ payment.amountPlanned = price) (Unsold customerId price [] cart s))
      (createPayment draft : Call ι MobileStore.Payment) t := by
  have stays : ∀ now, Unsold customerId price [] cart s now → ∀ turn : Turn,
      Unsold customerId price [] cart s (serve outside turn.choice (.createPayment draft) now).2 := by
    intro now unsold turn
    rcases create_payment_cases outside turn.choice now draft with ⟨code,served⟩ | ⟨fresh,served⟩
    · rw [served]
      exact unsold
    · rw [served]
      exact ⟨unsold.payments.trans (List.prefix_append _ _),payment_added unsold.sound fresh (payer.symm ▸ unsold.used),
        unsold.sales,List.mem_cons_of_mem _ unsold.used,unsold.holds.1,unsold.holds.2,unsold.holds.3,unsold.holds.4⟩
  refine ask_buys (.createPayment draft) (fun x => x) (fun _ => ⟨_,rfl⟩) (Unsold customerId price [] cart s) unsold
    (fun now unsold turn => (stays now unsold turn).idle (answer_store outside turn _ now)) ?_
  intro now unsold turn payment served
  refine ⟨(stays now unsold turn).idle (answer_store outside turn _ now),?_⟩
  rw [(answer_store outside turn (.createPayment draft) now).still.payments]
  rcases create_payment_cases outside turn.choice now draft with ⟨code,failed⟩ | ⟨fresh,created⟩
  · rw [failed] at served
    cases served
  · rw [created] at served ⊢
    cases served
    exact ⟨List.mem_append_right _ List.mem_cons_self,congrArg some payer,amount⟩

theorem add_payment_actions (cart : Cart) (paymentId : String) (address : Option String) :
    ((cartActions paymentId address).foldl applyCartAction cart) = {cart with payments := cart.payments++[paymentId]} := by
  cases address <;> rfl

theorem update_cart_still (outside : Outside) (choice : Choice) (paymentId : String) (address : Option String) (cart : Cart)
    (s : Store ι) : Still s (serve outside choice (.updateCartById cart.id cart.version (cartActions paymentId address)) s).2 := by
  rcases update_cart_cases outside choice cart.id cart.version s (cartActions paymentId address) with
    ⟨code,served⟩ | ⟨stored,updated,found,accepted,served⟩
  · rw [served]
    exact (Idle.refl s).still
  · rw [served]
    obtain ⟨_,changed⟩ := Versioned.compareAndSet_some.mp accepted
    obtain ⟨_,applied⟩ := Option.ite_none_right_eq_some.mp changed
    rw [add_payment_actions] at applied
    refine ⟨rfl,rfl,List.Subset.refl _,fun sound => ⟨sound.1,fun c member => ?_,sound.3,sound.4,sound.5⟩⟩
    rcases SinglePurchase.mem_replace.mp member with ⟨earlier,_⟩ | rfl
    · exact sound.usedCarts c earlier
    · cases applied
      exact sound.usedCarts stored (SinglePurchase.find_cart found).1

theorem update_cart_holds {outside : Outside} {choice : Choice} {listed : List String} (paymentId : String) (address : Option String)
    (holds : Holds customerId price listed cart s) :
    Holds customerId price listed cart (serve outside choice (.updateCartById cart.id cart.version (cartActions paymentId address)) s).2 ∧
      ∀ updated, (serve outside choice (.updateCartById cart.id cart.version (cartActions paymentId address)) s).1 = .ok updated →
        Holds customerId price (listed++[paymentId]) updated
          (serve outside choice (.updateCartById cart.id cart.version (cartActions paymentId address)) s).2 := by
  rcases update_cart_cases outside choice cart.id cart.version s (cartActions paymentId address) with
    ⟨code,served⟩ | ⟨stored,updated,found,accepted,served⟩
  · rw [served]
    exact ⟨holds,fun _ never => by cases never⟩
  · rw [served]
    obtain ⟨current,changed⟩ := Versioned.compareAndSet_some.mp accepted
    obtain ⟨_,applied⟩ := Option.ite_none_right_eq_some.mp changed
    rw [add_payment_actions] at applied
    obtain ⟨member,same⟩ := SinglePurchase.find_cart found
    cases holds.current stored member same current
    cases applied
    refine ⟨⟨holds.customer,holds.total,holds.payments,fun c member same version => ?_⟩,fun updated given => ?_⟩
    · rcases SinglePurchase.mem_replace.mp member with ⟨_,other⟩ | rfl
      · exact absurd same other
      · exact absurd version (Nat.succ_ne_self _)
    · cases given
      refine ⟨holds.customer,holds.total,congrArg (·++[paymentId]) holds.payments,fun c member same _ => ?_⟩
      rcases SinglePurchase.mem_replace.mp member with ⟨_,other⟩ | rfl
      · exact absurd same other
      · rfl

theorem add_payment_buys {outside : Outside} (address : Option String) (unsold : Unsold customerId price [] cart s t)
    (payable : Payable currencies s sent customerId price payment t) :
    Buys outside (Ends (fun updated u => Unsold customerId price [payment.id] updated s u ∧
        Payable currencies s sent customerId price payment u) (Outcome currencies s sent))
      (addPaymentAndAddressToCart cart payment.id address : Call ι Cart) t := by
  have step : ∀ now, Unsold customerId price [] cart s now ∧ Payable currencies s sent customerId price payment now →
      ∀ turn : Turn, Unsold customerId price [] cart s (answer outside turn
        (.updateCartById cart.id cart.version (cartActions payment.id address)) now).2 ∧
      Payable currencies s sent customerId price payment (answer outside turn
        (.updateCartById cart.id cart.version (cartActions payment.id address)) now).2 := by
    intro now both turn
    obtain ⟨unsold,payable⟩ := both
    have still := update_cart_still outside turn.choice payment.id address cart now
    have moved := answer_store outside turn (.updateCartById cart.id cart.version (cartActions payment.id address)) now
    refine ⟨Unsold.idle ?_ moved,payable.later (still.trans moved.still)⟩
    exact ⟨still.payments.symm ▸ unsold.payments,still.sound unsold.sound,still.sales.trans unsold.sales,
      still.used unsold.used,(update_cart_holds payment.id address unsold.holds).1⟩
  refine buys_mono (ask_buys (.updateCartById cart.id cart.version (cartActions payment.id address)) (fun x => x)
    (fun _ => ⟨_,rfl⟩) (fun now => Unsold customerId price [] cart s now ∧ Payable currencies s sent customerId price payment now)
    ⟨unsold,payable⟩ step ?_) (fun _ _ holds => holds) fun t ends => ends.1.outcome
  intro now both turn updated served
  obtain ⟨still,payable⟩ := step now both turn
  have moved := answer_store outside turn (.updateCartById cart.id cart.version (cartActions payment.id address)) now
  exact ⟨⟨still.payments,still.sound,still.sales,still.used,
    ((update_cart_holds payment.id address both.1.holds).2 updated served).idle moved⟩,payable⟩

-- The order is made once, though its answer may be lost.
def Ordering (currencies : String → Option Nat) (s : Store ι) (sent : Post ι) (customerId : String) (price : CentPrecisionMoney)
    (payment : MobileStore.Payment) (cart : Cart) (t : Store ι) : Prop :=
  Payable currencies s sent customerId price payment t ∧
    (sales t = sales s ∧ Holds customerId price [payment.id] cart t ∨
      sales t = sales s++[⟨customerId,price,[payment.id]⟩] ∧ ∀ c ∈ t.carts, c.id = cart.id → c.version ≠ cart.version)

theorem Ordering.idle (ordering : Ordering currencies s sent customerId price payment cart t) (idle : Idle t u) :
    Ordering currencies s sent customerId price payment cart u := by
  refine ⟨ordering.1.later idle.still,?_⟩
  rw [idle.still.sales,idle.carts]
  exact ordering.2.imp_left fun both => ⟨both.1,both.2.idle idle⟩

theorem Ordering.outcome (ordering : Ordering currencies s sent customerId price payment cart t) :
    Outcome currencies s sent t := by
  obtain ⟨payable,⟨unsold,_⟩ | ⟨sold,_⟩⟩ := ordering
  · exact ⟨payable.payments,payable.sound,.inl unsold⟩
  · exact ⟨payable.payments,payable.sound,.inr ⟨customerId,price,payment,payable,sold⟩⟩

theorem order_added {choice : Choice} (sound : Sound s) (member : cart ∈ s.carts) :
    Sound {s with
      carts := replaceCart {cart with cartState := .ordered, version := cart.version+1} s.carts
      orders := s.orders++[orderOf choice.id cart.orderNumber cart], usedIds := choice.id::s.usedIds} := by
  refine ⟨fun c member => List.mem_cons_of_mem _ (sound.usedCustomers c member),fun c listed => ?_,
    fun p member => List.mem_cons_of_mem _ (sound.usedPayments p member),
    fun p member id payer => List.mem_cons_of_mem _ (sound.usedPayers p member id payer),sound.paymentIds⟩
  rcases SinglePurchase.mem_replace.mp listed with ⟨earlier,_⟩ | rfl
  · exact (sound.usedCarts c earlier).imp (List.mem_cons_of_mem _) (List.mem_cons_of_mem _)
  · exact (sound.usedCarts cart member).imp (List.mem_cons_of_mem _) (List.mem_cons_of_mem _)

theorem Ordering.step {outside : Outside} {choice : Choice}
    (ordering : Ordering currencies s sent customerId price payment cart t) :
    Ordering currencies s sent customerId price payment cart
      (serve outside choice (.createOrder cart.id cart.version cart.orderNumber) t).2 := by
  rcases create_order_cases outside choice cart.id cart.version t cart.orderNumber with
    ⟨code,served⟩ | ⟨stored,found,version,_,_,served⟩
  · rw [served]
    exact ordering
  · rw [served]
    obtain ⟨payable,⟨unsold,holds⟩ | ⟨_,stale⟩⟩ := ordering
    · obtain ⟨member,same⟩ := SinglePurchase.find_cart found
      cases holds.current stored member same version
      refine ⟨⟨payable.payments,order_added payable.sound member,payable.priced,payable.customer,payable.listed,payable.chosen⟩,
        .inr ⟨?_,fun c member same => ?_⟩⟩
      · simp only [sales,List.map_append,List.map_cons,List.map_nil,saleOf,MobileStore.orderOf,holds.customer,holds.total,holds.payments]
        exact congrArg (·++_) unsold
      · rcases SinglePurchase.mem_replace.mp member with ⟨_,other⟩ | rfl
        · exact absurd same other
        · exact Nat.succ_ne_self _
    · obtain ⟨member,same⟩ := SinglePurchase.find_cart found
      exact absurd version (stale stored member same)

theorem create_order_buys {outside : Outside} (ordering : Ordering currencies s sent customerId price payment cart t) :
    Buys outside (Ends (fun _ => Outcome currencies s sent) (Outcome currencies s sent))
      (createOrderFromCart cart : Call ι MobileStore.Order) t := by
  have step : ∀ now, Ordering currencies s sent customerId price payment cart now → ∀ turn : Turn,
      Ordering currencies s sent customerId price payment cart
        (answer outside turn (.createOrder cart.id cart.version cart.orderNumber) now).2 :=
    fun now ordering turn => ordering.step.idle (answer_store outside turn _ now)
  exact buys_mono (ask_buys (.createOrder cart.id cart.version cart.orderNumber) (fun x => x) (fun _ => ⟨_,rfl⟩)
    (Ordering currencies s sent customerId price payment cart) ordering step fun now ordering turn _ _ => step now ordering turn)
    (fun _ _ ordering => ordering.outcome) fun _ ordering => ordering.outcome

end Order

section Body
variable {ι α : Type} {currencies : String → Option Nat} {sent : Post ι} {s t : Store ι}

theorem during_buys {locals : Locals} {good : α → Store ι → Prop} {bad : Store ι → Prop} {p : Call ι α}
    {f : α → Body ι HttpResponse} {outside : Outside} (holds : Buys outside (Ends good bad) p t)
    (failed : ∀ t, bad t → Outcome currencies s sent t)
    (done : ∀ a t, good a t → Buys outside (fun _ => Outcome currencies s sent) (f a) t) :
    Buys outside (fun _ => Outcome currencies s sent) ((during locals p).bind f) t := by
  refine Prog.wp_seq (Ends good (Outcome currencies s sent)) ?_ (fun e t ends => ends) done
  refine Prog.wp_expect.mpr (Prog.wp_attempt.mpr (Prog.wp_mono holds fun out t ends => ?_))
  cases out with
  | ok a => exact ends
  | error e => exact failed t ends

theorem ends_buys {outside : Outside} {kept : Store ι → Prop} {p : Call ι α} (holds : Buys outside (fun _ => kept) p t) :
    Buys outside (Ends (fun _ => kept) kept) p t :=
  Prog.wp_mono holds fun out u ends => by
    cases out with
    | ok a => exact ends
    | error e => exact ends

theorem quiet_buys {outside : Outside} {kept : Store ι → Prop} {p : Call ι α} (within : p.Within (idle · = true) fun _ => True)
    (start : kept t) (stays : ∀ u, Idle t u → kept t → kept u) : Buys outside (Ends (fun _ => kept) kept) p t :=
  ends_buys (Prog.wp_mono (idle_buys within t) fun _ u idle => stays u idle start)

theorem transition_within (orderId : String) (orderVersion : Nat) (lineItems : List LineItem) (fromStateId newStateKey : String) :
    (updateLineItemsTransitionState orderId orderVersion lineItems fromStateId newStateKey : Call ι _).Within
      (idle · = true) fun _ => True := by
  have once : (Prog.expect .commercetoolsError (.call (.updateOrderById orderId orderVersion
      (lineItems.map fun item => ⟨item.id,item.quantity,fromStateId,newStateKey⟩)) fun x => .pure x) : Call ι _).Within
      (idle · = true) fun _ => True := Prog.Within.ask rfl fun _ => trivial
  exact once.retry _ _

theorem emits_buys {locals : Locals} {x : Except Exn α} {f : α → Body ι HttpResponse} {outside : Outside}
    (outcome : Outcome currencies s sent t) (done : ∀ a, Buys outside (fun _ => Outcome currencies s sent) (f a) t) :
    Buys outside (fun _ => Outcome currencies s sent) ((during locals (emits x)).bind f) t := by
  cases x with
  | ok a => exact done a
  | error e => exact outcome

theorem complete_order_buys (forUserMsg : String) (standalonePrice : CentPrecisionMoney) (cart : Cart) (payment : MobileStore.Payment) (regionCode : Option String)
    {customerId : String} {price : CentPrecisionMoney} (unsold : Unsold customerId price [] cart s t)
    (payable : Payable currencies s sent customerId price payment t) :
    Buys sent.outside (fun _ => Outcome currencies s sent)
      (completeOrder forUserMsg standalonePrice cart payment regionCode : Body ι HttpResponse) t := by
  refine during_buys (add_payment_buys _ unsold payable) (fun _ outcome => outcome) ?_
  intro cart t both
  obtain ⟨unsold,payable⟩ := both
  refine during_buys (create_order_buys ⟨payable,.inl ⟨unsold.sales,unsold.holds⟩⟩) (fun _ outcome => outcome) ?_
  intro order t outcome
  have later : ∀ {t u : Store ι}, Idle t u → Outcome currencies s sent t → Outcome currencies s sent u :=
    fun idle outcome => outcome.later idle.still
  have first : (firstStateId order : Call ι String).Within (idle · = true) fun _ => True := by
    unfold firstStateId
    split <;> trivial
  refine during_buys (quiet_buys first outcome fun _ => later) (fun _ outcome => outcome) ?_
  intro fromStateId t outcome
  refine during_buys (quiet_buys (transition_within _ _ _ _ _) outcome fun _ => later) (fun _ outcome => outcome) ?_
  intro updated t outcome
  exact emits_buys outcome fun _ => outcome

theorem external_price_buys (t : Store ι) (outside : Outside) (data : MobileOrderRequestData) {kept : Store ι → Prop} (start : kept t) :
    Buys outside (Ends (fun price u => kept u ∧ externalPriceOf currencies data = (.pure price : Call ι CentPrecisionMoney)) kept)
      (externalPriceOf currencies data : Call ι CentPrecisionMoney) t := by
  unfold externalPriceOf
  split
  · exact start
  · exact ⟨start,rfl⟩

theorem payment_buys {cart : Cart} {draft : PaymentDraft} {response : ValidationResponse} {standalonePrice : CentPrecisionMoney}
    (sound : Sound s) (customer : CustomerFor sent.user s draft.customerId) (cleared : Cleared old s t)
    (looked : ∀ cart, old = some cart → currentCart s draft.customerId = some cart)
    (standalone : (sent.outside.standalonePrices sent.request.data.courseRunKey).head? = some standalonePrice)
    (validates : Validates (validatedId sent.outside sent.request (standalonePrice.centAmount.tdiv 100)) t response)
    (priced : externalPriceOf currencies sent.request.data = (.pure draft.amountPlanned : Call ι CentPrecisionMoney))
    (used : draft.customerId ∈ t.usedIds) (holds : Holds draft.customerId draft.amountPlanned [] cart t) :
    Buys sent.outside (Ends (fun payment u => Unsold draft.customerId draft.amountPlanned [] cart s u ∧
        Payable currencies s sent draft.customerId draft.amountPlanned payment u) (Outcome currencies s sent))
      (givenOrNewPayment response.payment draft : Call ι MobileStore.Payment) t := by
  have unsold : Unsold draft.customerId draft.amountPlanned [] cart s t :=
    ⟨cleared.still.payments ▸ List.prefix_rfl,cleared.still.sound sound,cleared.still.sales,used,holds⟩
  have reuses := found_reuses sound customer cleared looked standalone validates
  cases result : response.payment with
  | some payment =>
    rw [result] at reuses
    exact ⟨unsold,unsold.payments,unsold.sound,priced,customer,reuses.1,.inl reuses.2⟩
  | none =>
    rw [result] at reuses
    refine buys_mono (create_payment_buys draft rfl rfl unsold) (fun payment u ends => ?_) fun u unsold => unsold.outcome
    obtain ⟨unsold,listed,payer,amount⟩ := ends
    exact ⟨unsold,unsold.payments,unsold.sound,priced,customer,listed,.inr ⟨reuses,payer,amount⟩⟩

theorem create_order_body (sound : Sound s) :
    Buys sent.outside (fun _ => Outcome currencies s sent)
      (createOrder currencies sent.caller sent.user sent.request : Body ι HttpResponse) s := by
  have still : ∀ t, Still s t → Outcome currencies s sent t := fun t still => still.outcome sound
  refine during_buys (get_ct_customer_buys sent.user sound) (fun t idle => still t idle.still) ?_
  intro customer t ends
  obtain ⟨idle,registered,used⟩ := ends
  refine during_buys (get_customer_cart_buys customer.id t) (fun u later => still u (idle.trans later).still) ?_
  intro old u ends
  obtain ⟨later,looked⟩ := ends
  have looked : ∀ cart, old = some cart → currentCart s customer.id = some cart := by
    intro cart same
    have current := looked cart same
    unfold currentCart at current
    rw [idle.carts] at current
    exact current
  have deletion : Buys sent.outside (fun _ => Shopping old customer.id s) (deleteExistingCart old : Call ι Unit) u :=
    Prog.wp_mono (delete_existing_buys old u) fun _ v cleared =>
      ⟨cleared.after (idle.trans later),cleared.still.used (later.still.used used)⟩
  have given_up : ∀ t, Shopping old customer.id s t → Outcome currencies s sent t :=
    fun t shopping => still t shopping.cleared.still
  have stays : ∀ {t u : Store ι}, Idle t u → Shopping old customer.id s t → Shopping old customer.id s u :=
    fun idle shopping => shopping.idle idle
  refine during_buys (ends_buys deletion) given_up ?_
  intro _ t shopping
  refine during_buys (external_price_buys t sent.outside sent.request.data shopping) given_up ?_
  intro externalPrice t both
  obtain ⟨shopping,priced⟩ := both
  have standalone : Buys sent.outside (Ends (fun price u => Shopping old customer.id s u ∧
      (sent.outside.standalonePrices sent.request.data.courseRunKey).head? = some price) (Shopping old customer.id s))
      (getStandalonePriceForSku sent.request.data.courseRunKey : Call ι CentPrecisionMoney) t := by
    refine Prog.wp_mono (standalone_price_buys sent.request.data.courseRunKey t) fun out u ends => ?_
    cases out with
    | ok price => exact ⟨shopping.idle ends.1,ends.2 price rfl⟩
    | error e => exact shopping.idle ends.1
  refine during_buys standalone given_up ?_
  intro standalonePrice t both
  obtain ⟨shopping,standalone⟩ := both
  refine during_buys (quiet_buys (order_number_within sent.caller) shopping fun _ => stays) given_up ?_
  intro orderNumber t shopping
  refine during_buys (create_cart_buys _ customer _ externalPrice orderNumber sound shopping) given_up ?_
  intro cart t both
  obtain ⟨shopping,holds⟩ := both
  have validation : Buys sent.outside (Ends (fun info u => (Shopping old customer.id s u ∧
      Holds customer.id externalPrice [] cart u) ∧ ∀ response, info = .accepted response →
        Validates (validatedId sent.outside sent.request (standalonePrice.centAmount.tdiv 100)) u response)
      (Shopping old customer.id s)) (getPaymentInfoFromPurchaseToken sent.request.paymentProcessor sent.request.purchaseToken
        cart.id (standalonePrice.centAmount.tdiv 100) : Call ι PaymentInfo) t := by
    refine Prog.wp_mono (payment_info_buys sent.request cart.id (standalonePrice.centAmount.tdiv 100) t) fun out u ends => ?_
    obtain ⟨idle,validates⟩ := ends
    cases out with
    | error e => exact shopping.idle idle
    | ok info =>
      refine ⟨⟨shopping.idle idle,holds.idle idle⟩,fun response same => ?_⟩
      obtain ⟨id,known,found⟩ := validates response (congrArg Except.ok same)
      refine ⟨id,known,?_⟩
      unfold Found
      rw [idle.carts,idle.still.payments]
      exact found
  refine during_buys validation given_up ?_
  intro info t ends
  obtain ⟨⟨shopping,holds⟩,validates⟩ := ends
  cases info with
  | refused error statusCode =>
    have deletion : Buys sent.outside (fun _ => Outcome currencies s sent) (deleteCart cart : Call ι Unit) t :=
      Prog.wp_mono (delete_buys cart t) fun _ u removed => (given_up t shopping).later removed.still
    refine during_buys (ends_buys deletion) (fun _ outcome => outcome) ?_
    intro _ t outcome
    exact outcome
  | accepted response =>
    refine emits_buys (given_up t shopping) fun _ => emits_buys (given_up t shopping) fun _ => ?_
    refine during_buys (payment_buys sound registered shopping.cleared looked standalone (validates response rfl) priced
      shopping.used holds) (fun _ outcome => outcome) ?_
    intro payment t both
    exact complete_order_buys _ _ cart payment response.regionCode both.1 both.2

theorem post_buys (sound : Sound s) :
    Buys sent.outside (fun _ => Outcome currencies s sent) (post currencies sent.caller sent.user sent.request) s := by
  refine Prog.wp_seq (fun _ => Outcome currencies s sent) (Prog.wp_attempt.mpr (create_order_body sound)) (fun _ _ ends => ends) ?_
  intro out t outcome
  rcases out with ⟨locals,error⟩ | response
  · cases error with
    | commercetoolsError code =>
      refine Prog.wp_seq (fun _ => Outcome currencies s sent) ?_ (fun _ _ ends => ends) fun _ _ ends => ends
      obtain ⟨forUserMsg,_ | cart,_ | order⟩ := locals
      · exact outcome
      · exact outcome
      · exact Prog.wp_mono (delete_buys cart t) fun _ u removed => outcome.later removed.still
      · exact outcome
    | _ => exact outcome
  · exact outcome

end Body

section Runs
variable {ι : Type}

structure Step (ι : Type) where
  before : Store ι
  sent : Post ι
  after : Store ι

inductive Runs (currencies : String → Option Nat) : Store ι → List (Step ι) → Store ι → Prop where
  | nil : Runs currencies s [] s
  | cons {s t u : Store ι} {sent : Post ι} {turns : List Turn} {steps : List (Step ι)} {out : Except Exn HttpResponse} :
      Prog.replay (answer sent.outside) (fun _ _ _ => true) (post currencies sent.caller sent.user sent.request) turns s =
        some (out,t) → Runs currencies t steps u → Runs currencies s (⟨s,sent,t⟩::steps) u

variable {currencies : String → Option Nat} {sent : Post ι} {s t u : Store ι}

def created (s t : Store ι) : List MobileStore.Order := t.orders.drop s.orders.length

theorem created_sales (sold : sales t = sales s++new) : (created s t).map saleOf = new := by
  unfold created
  rw [List.map_drop]
  change (sales t).drop s.orders.length = new
  rw [sold]
  exact List.drop_left' (List.length_map _)

theorem step_outcome (sound : Sound s)
    (ran : Prog.replay (answer sent.outside) (fun _ _ _ => true) (post currencies sent.caller sent.user sent.request) turns s =
      some (out,t)) : Outcome currencies s sent t :=
  Prog.wp_replay (Prog.wp_allowed (post_buys sound) fun _ _ _ _ => trivial) ran

theorem priced_unique {data : MobileOrderRequestData} {price other : CentPrecisionMoney}
    (first : externalPriceOf currencies data = (.pure price : Call ι CentPrecisionMoney))
    (second : externalPriceOf currencies data = (.pure other : Call ι CentPrecisionMoney)) : price = other := by
  cases first.symm.trans second
  rfl

theorem payable_paid_iff (sound : Sound s) (payable : Payable currencies s sent customerId price payment t)
    (later : Sound u) (listed : payment ∈ u.payments) :
    Paid u ⟨customerId,price,[payment.id]⟩ ↔ OwnPayment currencies s sent := by
  have paid_iff : Paid u ⟨customerId,price,[payment.id]⟩ ↔
      payment.customerId = some customerId ∧ SameMoney payment.amountPlanned price := by
    constructor
    · intro paid
      obtain ⟨other,member,same,payer,amount⟩ := paid
      cases later.paymentIds other member payment listed (List.mem_singleton.mp same)
      exact ⟨payer,amount⟩
    · exact fun both => ⟨payment,listed,List.mem_singleton.mpr rfl,both.1,both.2⟩
  rw [paid_iff]
  rcases payable.chosen with reuses | ⟨unused,payer,amount⟩
  · constructor
    · intro both other reused
      cases reuses_unique reuses reused
      rcases payable.customer with ⟨customer,registered,rfl⟩ | ⟨_,fresh⟩
      · refine ⟨customer,registered,both.1,fun other priced => ?_⟩
        cases priced_unique payable.priced priced
        exact both.2
      · obtain ⟨_,_,_,_,found,_⟩ := reuses
        have known := (List.mem_filter.mp (List.mem_of_mem_head? found)).1
        exact absurd (sound.usedPayers payment known customerId both.1) fresh
    · intro own
      obtain ⟨customer,registered,payer,amount⟩ := own payment reuses
      refine ⟨?_,amount price payable.priced⟩
      rcases payable.customer with ⟨other,registered',rfl⟩ | ⟨none_,_⟩
      · cases Option.mem_unique registered registered'
        exact payer
      · cases none_.symm.trans registered
  · exact iff_of_true ⟨payer,by rw [amount]; exact ⟨rfl,rfl⟩⟩ fun other reused => absurd reused (unused other)

structure Accounts (currencies : String → Option Nat) (s : Store ι) (steps : List (Step ι)) (t : Store ι)
    (new : List Sale) : Prop where
  sound : Sound t
  payments : s.payments <+: t.payments
  sold : sales t = sales s++new
  decided : ∀ sale ∈ new, ∃ step ∈ steps, (Paid t sale ↔ OwnPayment currencies step.before step.sent)
  covered : ∀ step ∈ steps, created step.before step.after ≠ [] →
    ∃ sale ∈ new, (Paid t sale ↔ OwnPayment currencies step.before step.sent)

theorem runs_accounts (sound : Sound s) (ran : Runs currencies s steps t) : ∃ new, Accounts currencies s steps t new := by
  induction ran with
  | nil => exact ⟨[],sound,List.prefix_rfl,(List.append_nil _).symm,by simp,by simp⟩
  | @cons s t u sent turns steps out executed _ ih =>
    have outcome := step_outcome sound executed
    obtain ⟨new,later⟩ := ih outcome.sound
    rcases outcome.sold with unsold | ⟨customerId,price,payment,payable,sold⟩
    · have none_ : created s t = [] := List.map_eq_nil_iff.mp (created_sales (unsold.trans (List.append_nil _).symm))
      refine ⟨new,later.sound,outcome.payments.trans later.payments,by rw [later.sold,unsold],?_,?_⟩
      · intro sale member
        obtain ⟨step,present,decided⟩ := later.decided sale member
        exact ⟨step,List.mem_cons_of_mem _ present,decided⟩
      · exact List.forall_mem_cons.mpr ⟨fun some_ => absurd none_ some_,later.covered⟩
    · have decided := payable_paid_iff sound payable later.sound (later.payments.subset payable.listed)
      refine ⟨⟨customerId,price,[payment.id]⟩::new,later.sound,outcome.payments.trans later.payments,
        by rw [later.sold,sold,List.append_assoc]; rfl,?_,?_⟩
      · refine List.forall_mem_cons.mpr ⟨⟨_,List.mem_cons_self,decided⟩,fun sale member => ?_⟩
        obtain ⟨step,present,decided⟩ := later.decided sale member
        exact ⟨step,List.mem_cons_of_mem _ present,decided⟩
      · refine List.forall_mem_cons.mpr ⟨fun _ => ⟨_,List.mem_cons_self,decided⟩,fun step present some_ => ?_⟩
        obtain ⟨sale,member,decided⟩ := later.covered step present some_
        exact ⟨sale,List.mem_cons_of_mem _ member,decided⟩

-- Every order is paid by its own payment as long as the payments left over are
-- reused by their customers for their price, and not beyond that.
theorem orders_paid_by_own (sound : Sound s) (ran : Runs currencies s steps t) :
    ((∀ step ∈ steps, OwnPayment currencies step.before step.sent) → ∀ order ∈ created s t, Paid t (saleOf order)) ∧
    ∀ step ∈ steps, created step.before step.after ≠ [] → ¬ OwnPayment currencies step.before step.sent →
      ∃ order ∈ created s t, ¬ Paid t (saleOf order) := by
  obtain ⟨new,accounts⟩ := runs_accounts sound ran
  have listed := created_sales accounts.sold
  refine ⟨fun own order member => ?_,fun step present some_ other => ?_⟩
  · obtain ⟨step,present,decided⟩ := accounts.decided (saleOf order) (listed ▸ List.mem_map_of_mem member)
    exact decided.mpr (own step present)
  · obtain ⟨sale,member,decided⟩ := accounts.covered step present some_
    rw [← listed] at member
    obtain ⟨order,created,rfl⟩ := List.mem_map.mp member
    exact ⟨order,created,mt decided.mp other⟩

end Runs

section Examples
open SinglePurchase

def learners : Store Unit :=
  ⟨[⟨"customer",1,"ada@example.org","Ada","Byron","7",some "ada"⟩,⟨"friend",1,"bob@example.org","Bob","Hope","8",some "bob"⟩],
    [],[],[],["customer","friend"],⟨⟨7,2,OrderNumber.y2025⟩,OrderNumber.y2025,[]⟩⟩

def friend : User := ⟨some 8,"bob","bob@example.org","Bob","Hope",""⟩

def bought : Post Unit := ⟨playStore,(),learner,tapped⟩

def borrowed : Post Unit := ⟨playStore,(),friend,{tapped with data := {tapped.data with price := 3900000}}⟩

def calls (name : String) (number : Nat) : List Turn :=
  (List.range number).map fun k => ⟨⟨true,name++toString k⟩,false,none⟩

def leftOver : List Turn := calls "first" 11 ++ List.replicate 3 ⟨⟨false,""⟩,false,none⟩ ++ calls "last" 1

def replayed (sent : Post Unit) (turns : List Turn) (s : Store Unit) :=
  Prog.replay (answer sent.outside) (fun _ _ _ => true) (post usd sent.caller sent.user sent.request) turns s

theorem learners_sound : Sound learners := by
  refine ⟨by decide,?_,?_,?_,?_⟩ <;> simp [learners]

theorem tried_again : ∃ steps t, Runs usd learners steps t ∧ created learners t ≠ [] ∧
    ∀ order ∈ created learners t, Paid t (saleOf order) := by
  have ran : ((replayed bought leftOver learners).any fun (_,t) => (replayed bought (calls "second" 14) t).any fun (_,u) =>
      created learners u ≠ [] ∧ (customerOf learner t).map (·.id) = some "customer" ∧
        ∀ payment ∈ t.payments, payment.customerId = some "customer" ∧ payment.amountPlanned = ⟨4900,"USD",none⟩) = true := by
    decide +kernel
  obtain ⟨⟨_,t⟩,first,ran⟩ := (Option.any_eq_true _ _).mp ran
  obtain ⟨⟨_,u⟩,second,facts⟩ := (Option.any_eq_true _ _).mp ran
  obtain ⟨some_,registered,own⟩ := of_decide_eq_true facts
  have runs : Runs usd learners [⟨learners,bought,t⟩,⟨t,bought,u⟩] u := .cons first (.cons second .nil)
  refine ⟨_,u,runs,some_,(orders_paid_by_own learners_sound runs).1 ?_⟩
  refine List.forall_mem_cons.mpr ⟨fun payment reuses => ?_,List.forall_mem_singleton.mpr fun payment reuses => ?_⟩
  · obtain ⟨_,_,_,_,never,_⟩ := reuses
    cases never
  · obtain ⟨_,_,_,_,found,_⟩ := reuses
    obtain ⟨payer,amount⟩ := own payment (List.mem_filter.mp (List.mem_of_mem_head? found)).1
    obtain ⟨customer,known,same⟩ := Option.map_eq_some_iff.mp registered
    refine ⟨customer,known,payer.trans (congrArg some same.symm),fun price priced => ?_⟩
    have usual : externalPriceOf usd tapped.data = (.pure ⟨4900,"USD",none⟩ : Call Unit CentPrecisionMoney) := by
      have cents : convertLocalizedPriceToCtCentAmount (tapped.data.price/100000) 2 0 = 4900 := by decide +kernel
      rw [← cents]
      rfl
    cases priced_unique usual priced
    rw [amount]
    exact ⟨rfl,rfl⟩

theorem paid_by_a_friend : Sound learners ∧ ∃ steps t, Runs usd learners steps t ∧
    ∃ order ∈ created learners t, ¬ Paid t (saleOf order) := by
  have ran : ((replayed bought leftOver learners).any fun (_,t) => (replayed borrowed (calls "second" 14) t).any fun (_,u) =>
      ∃ order ∈ created learners u, ¬ Paid u (saleOf order)) = true := by decide +kernel
  obtain ⟨⟨_,t⟩,first,ran⟩ := (Option.any_eq_true _ _).mp ran
  obtain ⟨⟨_,u⟩,second,facts⟩ := (Option.any_eq_true _ _).mp ran
  exact ⟨learners_sound,_,u,.cons first (.cons second .nil),of_decide_eq_true facts⟩

end Examples

end PaidOrders
