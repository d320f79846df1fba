import CommerceCoordinator.MobileCreateOrder
import CommerceCoordinator.Protocol

open Commercetools CallTree MobileStore MobileCreateOrder

-- The protocol that a request for one store transaction keeps to: what it may ask
-- of Commercetools next, given the cart it holds and the payment it has found.
namespace PurchaseProtocol

-- What a request knows before its next call: the cart its variable holds, the
-- payment it has looked up, or that it is about to attach the payment.
inductive Stage where
  | waiting (cart : Option Cart)
  | found (cart : Option Cart) (payment : MobileStore.Payment)
  | paying (cart : Option Cart) (paymentId : String)

namespace Stage

def copy : Stage → Option Cart
  | .waiting cart => cart
  | .found cart _ => cart
  | .paying cart _ => cart

def isPaying : Stage → Bool
  | .paying _ _ => true
  | _ => false

def reads (stage : Stage) : Option Cart → Stage
  | some cart => .waiting (some cart)
  | none => stage

def finds (stage : Stage) : Option (List MobileStore.Payment) → Stage
  | some (payment::_) => .found stage.copy payment
  | _ => stage

def creates (stage : Stage) : Option MobileStore.Payment → Stage
  | some payment => .paying stage.copy payment.id
  | none => stage

def takes : Stage → Option (List Cart) → Stage → Prop
  | .found cart payment,some [],next => next = .paying cart payment.id
  | _,_,_ => False

end Stage

section Protocol
variable {ι : Type}

def calls (t : String) : Stage → Request ι → Prop
  | .waiting cart,.deleteCartById id version => ∃ c, cart = some c ∧ id = c.id ∧ version = c.version
  | .waiting _,.queryPayments interactionId => interactionId = t
  | .waiting _,.createPayment draft => draft.interactionId = t ∧ draft.key = normalizedPaymentKey t
  | .waiting _,.queryCarts _ => False
  | .waiting _,.updateCartById _ _ _ => False
  | .waiting _,_ => True
  | .found _ payment,.queryCarts paymentId => paymentId = payment.id
  | .paying _ paymentId,.updateCartById _ _ actions => ∀ other, .addPayment other ∈ actions → other = paymentId
  | _,_ => False

def moves (stage : Stage) : (r : Request ι) → Response r → Stage → Prop
  | .getCartByCustomerId _,x,next => next = stage.reads x.toOption
  | .createCart _,x,next => next = stage.reads x.toOption
  | .queryPayments _,x,next => next = stage.finds x.toOption
  | .createPayment _,x,next => next = stage.creates x.toOption
  | .queryCarts _,x,next => stage.takes x.toOption next ∨ next = .waiting stage.copy
  | .updateCartById _ _ _,x,next => next = stage.reads x.toOption ∨ x.toOption = none ∧ next = .waiting stage.copy
  | _,_,next => next = stage

def answers (outside : Outside) : (r : Request ι) → Response r → Prop
  | .validateGooglePlay productId purchaseToken,x =>
    x = outside.googlePlay productId purchaseToken ∨ ∃ e, x = .error e
  | .validateAppStore purchaseToken,x => x = outside.appStore purchaseToken ∨ ∃ e, x = .error e
  | _,_ => True

def purchase (outside : Outside) (t : String) : Protocol (Request ι) Response Stage :=
  ⟨answers outside,calls t,moves⟩

theorem serve_answers (outside : Outside) (choice : Choice) (r : Request ι) (s : Store ι) :
    answers outside r (serve outside choice r s).1 := by
  cases r with
  | validateGooglePlay productId purchaseToken =>
    simp only [answers,serve]
    split
    · exact .inl rfl
    · exact .inr ⟨_,rfl⟩
  | validateAppStore purchaseToken =>
    simp only [answers,serve]
    split
    · exact .inl rfl
    · exact .inr ⟨_,rfl⟩
  | _ => trivial

end Protocol

section Programs
variable {ι ε α β : Type} {outside : Outside} {t : String} {cart : Option Cart}

def Ends (good : α → Stage → Prop) (stage : Stage) : Except ε α → Stage → Prop
  | .ok a,next => good a next
  | .error _,next => next = stage

abbrev Keeps (outside : Outside) (t : String) (good : α → Stage → Prop) (p : Prog (Request ι) Response ε α)
    (stage : Stage) : Prop := p.Follows (purchase outside t) (Ends good stage) stage

theorem bind_keeps (first : α → Stage → Prop) {p : Prog (Request ι) Response ε α}
    {f : α → Prog (Request ι) Response ε β} {good : β → Stage → Prop} (holds : Keeps outside t first p stage)
    (done : ∀ a next, first a next → (f a).Follows (purchase outside t) (Ends good stage) next) :
    Keeps outside t good (p.bind f) stage :=
  Prog.Follows.bind _ holds (fun _ _ ended => ended) done

theorem retry_keeps {p : Call ι α} {good : α → Stage → Prop} (holds : Keeps outside t good p stage) :
    Keeps outside t good (conditionalRetry p) stage := by
  refine Prog.Follows.retry _ 2 (holds.mono ?_) holds
  intro out next ended
  cases out with
  | ok a => exact ended
  | error e =>
    cases listed : OrderNumber.isCommercetoolsError e with
    | true => exact .inl ⟨listed,ended⟩
    | false => exact .inr ⟨listed,ended⟩

theorem expect_keeps {δ : Type} {raised : δ → ε} {p : Prog (Request ι) Response ε (Except δ α)} {good : α → Stage → Prop}
    (holds : p.Follows (purchase outside t) (fun out next => Ends good stage (out.bind (Except.mapError raised)) next) stage) :
    Keeps outside t good (p.expect raised) stage := Prog.Follows.expect holds

theorem get_customer_keeps (lmsUserId : Option Nat) :
    Keeps outside t (fun _ next => next = .waiting cart) (getCustomerByLmsUserId lmsUserId : Call ι _) (.waiting cart) := by
  unfold getCustomerByLmsUserId
  split
  · exact rfl
  · exact rfl
  · refine retry_keeps (bind_keeps (fun _ next => next = .waiting cart) ?_ ?_)
    · refine expect_keeps ⟨trivial,?_⟩
      intro x _
      cases x <;> exact ⟨_,rfl,rfl⟩
    · intro results next kept
      cases kept
      split <;> exact rfl

theorem create_customer_keeps (email firstName lastName lmsUserId lmsUserName : String) :
    Keeps outside t (fun _ next => next = .waiting cart)
      (createCustomer email firstName lastName lmsUserId lmsUserName : Call ι _) (.waiting cart) := by
  apply retry_keeps
  apply expect_keeps
  refine ⟨trivial,?_⟩
  intro x _
  cases x <;> exact ⟨_,rfl,rfl⟩

theorem update_customer_keeps (customer : Customer) (updates : List CustomerUpdateAction) :
    Keeps outside t (fun _ next => next = .waiting cart) (updateCustomer customer updates : Call ι _) (.waiting cart) := by
  apply retry_keeps
  apply expect_keeps
  refine ⟨trivial,?_⟩
  intro x _
  cases x <;> exact ⟨_,rfl,rfl⟩

theorem get_ct_customer_keeps (user : User) :
    Keeps outside t (fun _ next => next = .waiting cart) (getCtCustomer user : Call ι _) (.waiting cart) := by
  apply bind_keeps _ (get_customer_keeps user.lmsUserId)
  intro customer next kept
  cases kept
  cases customer with
  | none => exact create_customer_keeps ..
  | some customer =>
    dsimp only
    split
    · exact update_customer_keeps ..
    · exact rfl

theorem get_customer_cart_keeps (customerId : String) :
    Keeps outside t (fun found next => next = .waiting found) (getCustomerCart customerId : Call ι _) (.waiting none) := by
  refine retry_keeps ⟨trivial,?_⟩
  intro x _
  cases x with
  | ok cart => exact ⟨_,rfl,rfl⟩
  | error code => cases code <;> exact ⟨_,rfl,rfl⟩

theorem delete_cart_keeps (cart : Cart) :
    Keeps outside t (fun _ next => next = .waiting (some cart)) (deleteCart cart : Call ι _) (.waiting (some cart)) := by
  refine retry_keeps ⟨⟨cart,rfl,rfl,rfl⟩,?_⟩
  intro x _
  cases x <;> exact ⟨_,rfl,rfl⟩

theorem delete_existing_keeps (cart : Option Cart) :
    Keeps outside t (fun _ next => next = .waiting cart) (deleteExistingCart cart : Call ι _) (.waiting cart) := by
  cases cart with
  | none => exact rfl
  | some cart => exact delete_cart_keeps cart

theorem external_price_keeps (currencies : String → Option Nat) (data : MobileOrderRequestData) :
    Keeps outside t (fun _ next => next = .waiting cart) (externalPriceOf currencies data : Call ι _) (.waiting cart) := by
  unfold externalPriceOf
  split <;> exact rfl

theorem standalone_price_keeps (sku : String) :
    Keeps outside t (fun _ next => next = .waiting cart) (getStandalonePriceForSku sku : Call ι _) (.waiting cart) := by
  refine ⟨trivial,?_⟩
  intro x _
  cases x <;> exact ⟨_,rfl,rfl⟩

theorem order_number_keeps (caller : ι) :
    Keeps outside t (fun _ next => next = .waiting cart) (getNewOrderNumber caller) (.waiting cart) := by
  apply Prog.Follows.embed _ (fun r => ⟨trivial,fun _ => rfl⟩)
  intro out
  cases out <;> exact rfl

theorem create_cart_keeps (courseRunKey : String) (customer : Customer) (emailDomain : String)
    (externalPrice : CentPrecisionMoney) (orderNumber : String) :
    Keeps outside t (fun created next => next = .waiting (some created))
      (createCart courseRunKey customer emailDomain externalPrice orderNumber : Call ι _) (.waiting cart) := by
  apply retry_keeps
  apply expect_keeps
  refine ⟨trivial,?_⟩
  intro x _
  cases x <;> exact ⟨_,rfl,rfl⟩

theorem create_payment_keeps (draft : PaymentDraft) (paid : draft.interactionId = t)
    (keyed : draft.key = normalizedPaymentKey t) :
    Keeps outside t (fun payment next => next = .paying cart payment.id) (createPayment draft : Call ι _) (.waiting cart) := by
  apply retry_keeps
  apply expect_keeps
  refine ⟨⟨paid,keyed⟩,?_⟩
  intro x _
  cases x <;> exact ⟨_,rfl,rfl⟩

theorem payment_keeps (given : Option MobileStore.Payment) (draft : PaymentDraft) (paid : draft.interactionId = t)
    (keyed : draft.key = normalizedPaymentKey t) :
    (givenOrNewPayment given draft : Call ι _).Follows (purchase outside t)
      (Ends (fun payment next => next = .paying cart payment.id) (.waiting cart))
      (match given with | some payment => .paying cart payment.id | none => .waiting cart) := by
  cases given with
  | some payment => exact rfl
  | none => exact create_payment_keeps draft paid keyed

theorem create_order_keeps (cart : Cart) :
    Keeps outside t (fun _ next => next = .waiting (some cart)) (createOrderFromCart cart : Call ι _) (.waiting (some cart)) := by
  apply retry_keeps
  apply expect_keeps
  refine ⟨trivial,?_⟩
  intro x _
  cases x <;> exact ⟨_,rfl,rfl⟩

theorem transition_keeps (orderId : String) (orderVersion : Nat) (lineItems : List LineItem)
    (fromStateId newStateKey : String) :
    Keeps outside t (fun _ next => next = .waiting cart)
      (updateLineItemsTransitionState orderId orderVersion lineItems fromStateId newStateKey : Call ι _) (.waiting cart) := by
  apply retry_keeps
  apply expect_keeps
  refine ⟨trivial,?_⟩
  intro x _
  cases x <;> exact ⟨_,rfl,rfl⟩

-- The last attempt gives up.
theorem add_payment_keeps (cart : Cart) (paymentId : String) (address : Option String) :
    (addPaymentAndAddressToCart cart paymentId address : Call ι _).Follows (purchase outside t)
      (Ends (fun updated next => next = .waiting (some updated)) (.waiting (some cart))) (.paying (some cart) paymentId) := by
  have adds : ∀ other, CartUpdateAction.addPayment other ∈ cartActions paymentId address → other = paymentId := by
    intro other listed
    cases address <;> simpa [cartActions] using listed
  refine Prog.Follows.retry _ 2 (Prog.Follows.expect ⟨adds,?_⟩) (Prog.Follows.expect ⟨adds,?_⟩)
  · intro x _
    cases x with
    | ok updated => exact ⟨_,.inl rfl,rfl⟩
    | error code => exact ⟨_,.inl rfl,.inl ⟨rfl,rfl⟩⟩
  · intro x _
    cases x with
    | ok updated => exact ⟨_,.inl rfl,rfl⟩
    | error code => exact ⟨_,.inr ⟨rfl,rfl⟩,rfl⟩

-- Whether the payment found is used in the end is known before it is looked for.
theorem check_existing_keeps (used : Bool) :
    Keeps outside t (fun payment next => next = match payment with
        | some payment => if used then .paying cart payment.id else .waiting cart
        | none => .waiting cart) (checkExistingPayment t : IapCall ι _) (.waiting cart) := by
  refine bind_keeps (fun payment next => next = match payment with
    | some payment => .found cart payment
    | none => .waiting cart) ?_ ?_
  · refine bind_keeps (fun results next => next = Stage.finds (.waiting cart) (some results)) ?_ ?_
    · refine expect_keeps ⟨rfl,?_⟩
      intro x _
      cases x <;> exact ⟨_,rfl,rfl⟩
    · intro results next kept
      cases kept
      cases results <;> exact rfl
  · intro payment next kept
    cases kept
    cases payment with
    | none => exact rfl
    | some payment =>
      refine ⟨rfl,?_⟩
      intro x _
      cases x with
      | error code => exact ⟨_,.inr rfl,rfl⟩
      | ok carts =>
        cases carts with
        | cons other rest => exact ⟨_,.inr rfl,rfl⟩
        | nil =>
          cases used with
          | true => exact ⟨_,.inl rfl,rfl⟩
          | false => exact ⟨_,.inr rfl,rfl⟩

def transactionIdOf (outside : Outside) (request : MobileOrderRequest) (price : Int) : Option String :=
  if request.paymentProcessor = androidIap then
    match outside.googlePlay (getConsumableAndroidSku price) request.purchaseToken with
    | .ok purchase => purchase.orderId
    | .error _ => none
  else if request.paymentProcessor = iosIap then
    match outside.appStore request.purchaseToken with
    | .ok receipt => (latestPurchase (receipt.inApp.filter (·.productId = getConsumableIosSku price))).map
        (·.originalTransactionId)
    | .error _ => none
  else none

def Validated (t : String) (told : Bool) (cart : Option Cart) (response : ValidationResponse) (next : Stage) : Prop :=
  response.transactionId = t ∧ next = match response.payment with
    | some payment => if told then .paying cart payment.id else .waiting cart
    | none => .waiting cart

theorem android_keeps (told : Bool) (purchase : GooglePlayPurchase) (same : ∀ id, purchase.orderId = some id → id = t) :
    Keeps outside t (Validated t told cart) (handleAndroidValidation purchase : IapCall ι _) (.waiting cart) := by
  unfold handleAndroidValidation
  dsimp only
  split
  · exact rfl
  · rename_i named
    obtain ⟨id,given⟩ : ∃ id, purchase.orderId = some id := by
      cases given : purchase.orderId with
      | none => simp [given] at named
      | some id => exact ⟨id,rfl⟩
    cases same id given
    split
    · exact rfl
    · split
      · exact rfl
      · simp only [given,Option.getD_some]
        apply bind_keeps _ (check_existing_keeps (purchase.purchaseTimeMillis.isSome && told))
        intro payment next kept
        cases kept
        cases purchase.purchaseTimeMillis with
        | none => cases payment <;> exact rfl
        | some createdAt => cases payment <;> exact ⟨rfl,rfl⟩

theorem ios_keeps (told : Bool) (receipt : AppStoreReceipt) (price : Int) (cartId : String)
    (same : ∀ purchase, latestPurchase (receipt.inApp.filter (·.productId = getConsumableIosSku price)) = some purchase →
      purchase.originalTransactionId = t) :
    Keeps outside t (Validated t told cart) (handleIosValidation receipt price cartId : IapCall ι _) (.waiting cart) := by
  unfold handleIosValidation
  split
  · exact rfl
  · split
    · exact rfl
    · rename_i purchase latest
      have own := same purchase latest
      dsimp only
      split
      · exact rfl
      · rw [own]
        apply bind_keeps _ (check_existing_keeps (receipt.receiptCreationDate.isSome && told))
        intro payment next kept
        cases kept
        cases receipt.receiptCreationDate with
        | none => cases payment <;> exact rfl
        | some createdAt => cases payment <;> exact ⟨rfl,rfl⟩

theorem retry_validation_keeps {validation : IapCall ι (Except String α)} {good : α → Stage → Prop}
    (holds : Keeps outside t good (.expect .validationError validation) stage) :
    Keeps outside t good (retryValidation validation) stage := by
  refine Prog.Follows.retry _ 2 (holds.mono ?_) holds
  intro out next ended
  cases out with
  | ok a => exact ended
  | error e => exact .inl ⟨rfl,ended⟩

theorem validated_ends {stage : Stage} {told x : Except String α} {raised : String → ε}
    (possible : x = told ∨ ∃ e, x = .error e) :
    Ends (fun a next => next = stage ∧ told = .ok a) stage (x.mapError raised) stage := by
  cases x with
  | error message => exact rfl
  | ok receipt =>
    rcases possible with given | ⟨_,never⟩
    · exact ⟨rfl,given.symm⟩
    · cases never

theorem validate_iap_keeps (told : Bool) (request : MobileOrderRequest) (cartId : String) (price : Int)
    (same : ∀ id, transactionIdOf outside request price = some id → id = t) :
    Keeps outside t (Validated t told cart)
      (validateIap request.paymentProcessor request.purchaseToken cartId price : IapCall ι _) (.waiting cart) := by
  unfold validateIap
  unfold transactionIdOf at same
  split
  · rename_i android
    refine bind_keeps (fun purchase next => next = .waiting cart ∧
      outside.googlePlay (getConsumableAndroidSku price) request.purchaseToken = .ok purchase) ?_ ?_
    · apply retry_validation_keeps
      apply expect_keeps
      refine ⟨trivial,?_⟩
      intro x possible
      exact ⟨_,rfl,validated_ends possible⟩
    · intro purchase next both
      obtain ⟨rfl,given⟩ := both
      refine android_keeps told purchase fun id carried => same id ?_
      simpa [android,given] using carried
  · split
    · rename_i other ios
      refine bind_keeps (fun receipt next => next = .waiting cart ∧
        outside.appStore request.purchaseToken = .ok receipt) ?_ ?_
      · apply retry_validation_keeps
        apply expect_keeps
        refine ⟨trivial,?_⟩
        intro x possible
        exact ⟨_,rfl,validated_ends possible⟩
      · intro receipt next both
        obtain ⟨rfl,given⟩ := both
        refine ios_keeps told receipt price cartId fun purchase latest => same _ ?_
        simp only [if_neg other,if_pos ios,given,latest,Option.map_some]
    · exact rfl

theorem payment_info_keeps (told : Bool) (request : MobileOrderRequest) (cartId : String) (price : Int)
    (same : ∀ id, transactionIdOf outside request price = some id → id = t) :
    Keeps outside t (fun info next => match info with
        | .accepted response => Validated t told cart response next
        | .refused _ _ => next = .waiting cart)
      (getPaymentInfoFromPurchaseToken request.paymentProcessor request.purchaseToken cartId price : Call ι _)
      (.waiting cart) := by
  unfold getPaymentInfoFromPurchaseToken
  split
  · exact rfl
  · refine bind_keeps (fun (out : Except IapError ValidationResponse) next =>
      Ends (Validated t told cart) (.waiting cart) out next) ?_ ?_
    · exact Prog.Follows.attempt (validate_iap_keeps told request cartId price same)
    · intro out next ended
      cases out with
      | ok response => exact ended
      | error e => cases e <;> exact ended

-- In the body of the try statement a failure leaves the cart that the handler
-- reads from its variable.
def Tracks (good : α → Stage → Prop) : Except Failed α → Stage → Prop
  | .ok a,next => good a next
  | .error failed,next => next = .waiting failed.locals.cart

theorem during_tracks {p : Call ι α} {good : α → Stage → Prop} (locals : Locals)
    (holds : p.Follows (purchase outside t) (Ends good (.waiting locals.cart)) stage) :
    (during locals p).Follows (purchase outside t) (Tracks good) stage := by
  apply Prog.Follows.expect
  refine Prog.Follows.attempt (holds.mono ?_)
  intro out next ended
  cases out <;> exact ended

theorem bind_tracks (first : α → Stage → Prop) {p : Body ι α} {f : α → Body ι β} {good : β → Stage → Prop}
    (holds : p.Follows (purchase outside t) (Tracks first) stage)
    (done : ∀ a next, first a next → (f a).Follows (purchase outside t) (Tracks good) next) :
    (p.bind f).Follows (purchase outside t) (Tracks good) stage :=
  Prog.Follows.bind _ holds (fun _ _ ended => ended) done

def Idle (_ : α) (stage : Stage) : Prop := ∃ cart, stage = .waiting cart

theorem first_state_keeps (order : MobileStore.Order) :
    Keeps outside t (fun _ next => next = .waiting cart) (firstStateId order : Call ι _) (.waiting cart) := by
  unfold firstStateId
  split <;> exact rfl

-- What is told asks nothing: it goes through, or the request ends.
theorem emits_tracks {x : Except Exn α} {f : α → Body ι β} {good : β → Stage → Prop} (locals : Locals)
    (failed : ∀ e, x = .error e → stage = .waiting locals.cart)
    (done : ∀ a, x = .ok a → (f a).Follows (purchase outside t) (Tracks good) stage) :
    ((during locals (emits x)).bind f).Follows (purchase outside t) (Tracks good) stage := by
  cases x with
  | ok a => exact done a rfl
  | error e => exact failed e rfl

theorem complete_order_tracks (forUserMsg : String) (standalonePrice : CentPrecisionMoney) (cart : Cart)
    (payment : MobileStore.Payment) (regionCode : Option String) :
    (completeOrder forUserMsg standalonePrice cart payment regionCode : Body ι _).Follows (purchase outside t) (Tracks Idle)
      (.paying (some cart) payment.id) := by
  apply bind_tracks _ (during_tracks ⟨forUserMsg,some cart,none⟩ (add_payment_keeps cart payment.id _))
  intro updated next kept
  cases kept
  apply bind_tracks _ (during_tracks ⟨forUserMsg,some updated,none⟩ (create_order_keeps updated))
  intro order next kept
  cases kept
  apply bind_tracks _ (during_tracks ⟨forUserMsg,some updated,some order⟩ (first_state_keeps order))
  intro fromStateId next kept
  cases kept
  apply bind_tracks _ (during_tracks ⟨forUserMsg,some updated,some order⟩ (transition_keeps ..))
  intro order next kept
  cases kept
  exact emits_tracks ⟨forUserMsg,some updated,some order⟩ (fun _ _ => rfl) fun _ _ => ⟨_,rfl⟩

theorem create_order_tracks (currencies : String → Option Nat) (caller : ι) (user : User)
    (request : MobileOrderRequest) (same : ∀ price id, transactionIdOf outside request price = some id → id = t) :
    (createOrder currencies caller user request).Follows (purchase outside t) (Tracks Idle) (.waiting none) := by
  apply bind_tracks _ (during_tracks ⟨_,none,none⟩ (get_ct_customer_keeps user))
  intro customer next kept
  cases kept
  apply bind_tracks _ (during_tracks ⟨_,none,none⟩ (get_customer_cart_keeps customer.id))
  intro cart next kept
  cases kept
  apply bind_tracks _ (during_tracks ⟨_,cart,none⟩ (delete_existing_keeps cart))
  intro _ next kept
  cases kept
  apply bind_tracks _ (during_tracks ⟨_,cart,none⟩ (external_price_keeps currencies request.data))
  intro externalPrice next kept
  cases kept
  apply bind_tracks _ (during_tracks ⟨_,cart,none⟩ (standalone_price_keeps request.data.courseRunKey))
  intro standalonePrice next kept
  cases kept
  apply bind_tracks _ (during_tracks ⟨_,cart,none⟩ (order_number_keeps caller))
  intro orderNumber next kept
  cases kept
  apply bind_tracks _ (during_tracks ⟨_,cart,none⟩ (create_cart_keeps ..))
  intro created next kept
  cases kept
  let told := (SegmentEvents.emitCheckoutStartedEvent created.id standalonePrice created.lineItems created.discountCodes
    created.discountOnTotalPrice).isOk && (emitProductAddedEvents standalonePrice created).isOk
  apply bind_tracks _ (during_tracks ⟨_,some created,none⟩ (payment_info_keeps told request created.id _ (same _)))
  intro paymentInfo next ended
  cases paymentInfo with
  | refused error statusCode =>
    cases ended
    apply bind_tracks _ (during_tracks ⟨_,some created,none⟩ (delete_cart_keeps created))
    intro _ next kept
    cases kept
    exact ⟨_,rfl⟩
  | accepted response =>
    obtain ⟨transaction,rfl⟩ := ended
    have ends : told = false → (match response.payment with
        | some payment => if told then Stage.paying (some created) payment.id else .waiting (some created)
        | none => .waiting (some created)) = .waiting (some created) := by
      intro fails
      rw [fails]
      cases response.payment <;> rfl
    refine emits_tracks ⟨_,some created,none⟩ (fun e failed => ends (by simp [told,failed,Except.isOk,Except.toBool])) ?_
    intro _ started
    refine emits_tracks ⟨_,some created,none⟩ (fun e failed => ends (by simp [told,failed,Except.isOk,Except.toBool])) ?_
    intro _ added
    have passes : told = true := by simp [told,started,added,Except.isOk,Except.toBool]
    rw [passes]
    refine bind_tracks _ (during_tracks ⟨_,some created,none⟩ (payment_keeps response.payment _ transaction
      (congrArg normalizedPaymentKey transaction))) ?_
    intro payment next kept
    cases kept
    exact complete_order_tracks ..

theorem clean_up_keeps (locals : Locals) :
    Keeps outside t (fun _ next => next = .waiting locals.cart) (cleanUp locals : Call ι _) (.waiting locals.cart) := by
  rcases locals with ⟨forUserMsg,cart,order⟩
  cases cart with
  | none => exact rfl
  | some cart =>
    cases order with
    | some order => exact rfl
    | none => exact delete_cart_keeps cart

theorem post_follows (currencies : String → Option Nat) (caller : ι) (user : User) (request : MobileOrderRequest)
    (same : ∀ price id, transactionIdOf outside request price = some id → id = t) :
    (post currencies caller user request).Follows (purchase outside t) Idle (.waiting none) := by
  refine Prog.Follows.bind (fun (out : Except Exn (Except Failed HttpResponse)) next =>
    ∃ body, out = .ok body ∧ Tracks Idle body next) ?_ ?_ ?_
  · refine Prog.Follows.attempt ((create_order_tracks currencies caller user request same).mono ?_)
    exact fun out next ended => ⟨out,rfl,ended⟩
  · intro e next both
    obtain ⟨_,never,_⟩ := both
    cases never
  · intro body next both
    obtain ⟨_,⟨⟩,ended⟩ := both
    rcases body with ⟨locals,error⟩ | response
    · cases ended
      cases error with
      | commercetoolsError code =>
        apply Prog.Follows.bind _ (clean_up_keeps locals) (fun e next ended => ⟨_,ended⟩)
        intro _ next kept
        cases kept
        exact ⟨_,rfl⟩
      | _ => exact ⟨_,rfl⟩
    · exact ended

end Programs
end PurchaseProtocol
