import CommerceCoordinator.Execution
import CommerceCoordinator.Fulfillment
import CommerceCoordinator.OrderReturned
import CommerceCoordinator.SerializerFields

open Commercetools CallTree SerializerFields
open LegacyOrders (FieldValue LocalizedString TypedMoney Price lineItemAttribute pick)
open CatalogInfo (Product expandedType getCourseModeFromCtOrder getEdxProductCourseRunKey getLobFromVariantAttr)
open OrderDiscounts (DiscountedPrice CanvasEntryProperties ProductInformation DiscountNamed DurationLabelled
  extractCtOrderInformationForBrazeCanvas extractCtProductInformationForBrazeCanvas)
open SegmentProperties (isBundle)
open Fulfillment (FulfillmentState StateTable OrderAction applyAction applyActions updateLineItemOf transition InState)

-- fulfill_order_placed_message_signal_task, without its logging.
namespace OrderPlaced

-- What the task reads of a line item besides its state; `bundleId` is a custom
-- field.
structure ItemDetails extends Product where
  price : Price
  discountedPricePerQuantity : List DiscountedPrice
  bundleId : Option String

-- `details` are those of the line item of this id; no transition changes them.
structure PlacedOrder extends Order where
  orderNumber : Option String
  lastModifiedAt : Int
  discountOnTotalPrice : Option TypedMoney
  discountCodes : List (Option String)
  details : String → ItemDetails

def PlacedOrder.discounts (order : PlacedOrder) : OrderDiscounts.Order where
  orderNumber := order.orderNumber
  lastModifiedAt := order.lastModifiedAt
  lineItems := order.lineItems.map fun item =>
    ⟨item.id,item.quantity,(order.details item.id).price,(order.details item.id).discountedPricePerQuantity⟩
  totalPrice := ⟨order.totalPrice.centAmount,order.totalPrice.currencyCode,order.totalPrice.fractionDigits.getD 2,none⟩
  discountOnTotalPrice := order.discountOnTotalPrice
  discountCodes := order.discountCodes

structure Customer where
  lmsUserId : Option Int
  firstName : Option String
  lastName : Option String
  email : String

-- `lob` and `edxLmsUsername` are `none` where they are absent.
structure SerializerData where
  emailOptIn : Bool
  orderNumber : Option String
  orderId : String
  providerId : FieldValue
  edxLmsUserId : Int
  datePlaced : String
  sourceSystem : String
  orderVersion : Nat
  courseId : FieldValue
  lineItemId : String
  courseMode : FieldValue
  itemQuantity : Nat
  lineItemStateId : String
  messageId : String
  userFirstName : Option String
  userLastName : Option String
  userEmail : String
  productTitle : String
  productType : Option String
  lob : Option FieldValue
  edxLmsUsername : Option String
  bundleId : Option String

structure OrderFulfillmentRequest where
  courseId : String
  courseMode : String
  datePlaced : String
  emailOptIn : Bool
  lineItemId : String
  orderNumber : String
  orderId : String
  providerId : Option String
  sourceSystem : String
  edxLmsUserId : Int
  productTitle : String
  userFirstName : Option String
  userLastName : Option String
  userEmail : String
  productType : String
  lob : Option String
  edxLmsUsername : Option String
  bundleId : Option String

structure OrderFulfillViewInput extends OrderFulfillmentRequest where
  itemQuantity : Nat
  orderVersion : Nat
  lineItemStateId : String
  messageId : String

section Serializers
-- How a number is printed, and what EmailField accepts.
variable (printed : Rat → String) (emailField : String → Bool)

def textOf (value : Option String) : FieldValue := (value.map .text).getD .null

def optional (value : Option FieldValue) : Option (Option String) :=
  match value with
  | none => some none
  | some value => (charField printed value).map some

def emailText (email : String) : Option String := if emailField email then some (strip email) else none

def orderFulfillmentRequestSerializer (data : SerializerData) : Option OrderFulfillmentRequest := do
  let courseId ← charField printed data.courseId
  let courseMode ← charField printed data.courseMode
  let datePlaced ← textField data.datePlaced
  let lineItemId ← textField data.lineItemId
  let orderNumber ← data.orderNumber.bind textField
  let orderId ← textField data.orderId
  let providerId ← blankCharField printed data.providerId
  let sourceSystem ← textField data.sourceSystem
  let productTitle ← textField data.productTitle
  let userFirstName ← blankCharField printed (textOf data.userFirstName)
  let userLastName ← blankCharField printed (textOf data.userLastName)
  let userEmail ← emailText emailField data.userEmail
  let productType ← data.productType.bind textField
  let lob ← optional printed data.lob
  let edxLmsUsername ← optional printed (data.edxLmsUsername.map .text)
  let bundleId ← optional printed (data.bundleId.map .text)
  some
    {courseId, courseMode, datePlaced, emailOptIn := data.emailOptIn, lineItemId, orderNumber, orderId, providerId,
      sourceSystem, edxLmsUserId := data.edxLmsUserId, productTitle, userFirstName, userLastName, userEmail,
      productType, lob, edxLmsUsername, bundleId}

def orderFulfillViewInputSerializer (data : SerializerData) : Option OrderFulfillViewInput := do
  let request ← orderFulfillmentRequestSerializer printed emailField data
  let lineItemStateId ← textField data.lineItemStateId
  let messageId ← textField data.messageId
  some {request with itemQuantity := data.itemQuantity, orderVersion := data.orderVersion, lineItemStateId, messageId}

theorem request_line_item {data : SerializerData} {request : OrderFulfillmentRequest}
    (accepted : orderFulfillmentRequestSerializer printed emailField data = some request) :
    request.lineItemId = strip data.lineItemId := by
  unfold orderFulfillmentRequestSerializer at accepted
  obtain ⟨courseId,_,accepted⟩ := Option.bind_eq_some_iff.mp accepted
  obtain ⟨courseMode,_,accepted⟩ := Option.bind_eq_some_iff.mp accepted
  obtain ⟨datePlaced,_,accepted⟩ := Option.bind_eq_some_iff.mp accepted
  obtain ⟨lineItemId,trimmed,accepted⟩ := Option.bind_eq_some_iff.mp accepted
  simp only [Option.bind_eq_bind] at accepted
  repeat
    rw [Option.bind_eq_some_iff] at accepted
    obtain ⟨_,_,accepted⟩ := accepted
  cases accepted
  exact text_field_trimmed trimmed

theorem input_line_item {data : SerializerData} {input : OrderFulfillViewInput}
    (accepted : orderFulfillViewInputSerializer printed emailField data = some input) :
    input.lineItemId = strip data.lineItemId := by
  unfold orderFulfillViewInputSerializer at accepted
  simp only [Option.bind_eq_bind,Option.bind_eq_some_iff,Option.some.injEq] at accepted
  obtain ⟨request,valid,_,_,_,_,rfl⟩ := accepted
  exact request_line_item printed emailField valid

theorem input_accepted {data : SerializerData} : (orderFulfillViewInputSerializer printed emailField data).isSome ↔
    (orderFulfillmentRequestSerializer printed emailField data).isSome ∧ (textField data.lineItemStateId).isSome ∧
      (textField data.messageId).isSome := by
  unfold orderFulfillViewInputSerializer
  cases orderFulfillmentRequestSerializer printed emailField data with
  | none => simp
  | some request => cases textField data.lineItemStateId <;> cases textField data.messageId <;> simp

end Serializers

-- What the confirmation shows; `productType` is that of the last line item.
structure CanvasEntry where
  order : CanvasEntryProperties
  productType : Option String
  products : List ProductInformation
  hideReceiptCta : Bool
  deriving DecidableEq

inductive Interruption where
  | failed (error : Exn)
  | validationError
  | doesNotExist
  deriving DecidableEq

inductive Request where
  | getOrderById
  | getCustomerById (customerId : String)
  | getStateById (stateId : String)
  | getStateByKey (stateKey : String)
  | updateById (version : Nat) (actions : List OrderAction)
  | getProductByProgramId (programId : String)
  | getUser (lmsUserId : Int)
  | sendEntitlement (payload : OrderFulfillViewInput)
  | sendEnrollInCourse (payload : OrderFulfillViewInput)
  | fulfillOrder (payload : OrderFulfillmentRequest)
  | getCachedResponse
  | sendOrderConfirmationEmail (lmsUserId : Int) (lmsUserEmail : String) (canvasEntryProperties : CanvasEntry)
  | setAllTiers

-- A program product is its name. The cache has an entry for the order or none;
-- whatever becomes of the e-mail, the sender hears nothing of it.
abbrev Response : Request → Type
  | .getOrderById => Except ErrorCode PlacedOrder
  | .getCustomerById _ => Except ErrorCode Customer
  | .getStateById _ => Except ErrorCode String
  | .getStateByKey _ => Except ErrorCode String
  | .updateById _ _ => Except ErrorCode PlacedOrder
  | .getProductByProgramId _ => Except ErrorCode (Option LocalizedString)
  | .getUser _ => Option String
  | .sendEntitlement _ => Unit
  | .sendEnrollInCourse _ => Unit
  | .fulfillOrder _ => Unit
  | .getCachedResponse => Bool
  | .sendOrderConfirmationEmail _ _ _ => Unit
  | .setAllTiers => Unit

abbrev Call := Prog Request Response Interruption
def raised (code : ErrorCode) : Interruption := .failed (.commercetoolsError code)
def orRaise (x : Except Exn α) : Call α := Prog.orRaise .failed x
def getOrderById : Call PlacedOrder := .expect raised (.perform Request.getOrderById)
def getCustomerById (customerId : String) : Call Customer := .expect raised (.perform (Request.getCustomerById customerId))
def getStateById (stateId : String) : Call String := .expect raised (.perform (Request.getStateById stateId))
def getStateByKey (stateKey : String) : Call String := .expect raised (.perform (Request.getStateByKey stateKey))
def updateById (version : Nat) (actions : List OrderAction) : Call PlacedOrder :=
  .expect raised (.perform (Request.updateById version actions))
def getProductByProgramId (programId : String) : Call (Option LocalizedString) :=
  .expect raised (.perform (Request.getProductByProgramId programId))

def transitionActions (lineItems : List LineItem) (fromStateKey newStateKey : String) : List OrderAction :=
  lineItems.map fun item => .transitionLineItemState item.id item.quantity fromStateKey newStateKey

def updateLineItemsTransitionState (orderVersion : Nat) (lineItems : List LineItem) (fromStateId newStateKey : String) :
    Call PlacedOrder := do
  let fromStateKey ← getStateById fromStateId
  if newStateKey ≠ fromStateKey then updateById orderVersion (transitionActions lineItems fromStateKey newStateKey)
  else getOrderById

structure Arguments where
  lineItemStateId : String
  sourceSystem : String
  messageId : String
  isOrderFulfillmentForwardingEnabled : Bool

def getProductTitle (item : ItemDetails) : Call String :=
  if isBundle item.bundleId then do
    match ← getProductByProgramId (item.bundleId.getD "") with
    | some name => return (pick name "en-US").getD ""
    | none => return (pick item.name "en-US").getD ""
  else .pure ((pick item.name "en-US").getD "")

def isValid (validatedData : Option α) : Call α :=
  match validatedData with
  | some payload => .pure payload
  | none => .raise .validationError

section Task
variable (env : OrderDiscounts.Environment) (emailField : String → Bool) (args : Arguments)

def printedNumber (value : Rat) : String := env.printed (.number value)

def serializerData (order : PlacedOrder) (customer : Customer) (lmsUserId : Int) (orderVersion : Nat)
    (lineItemStateId : String) (item : LineItem) (productTitle : String) : Except Exn SerializerData := do
  let details := order.details item.id
  let courseMode ← getCourseModeFromCtOrder details.attributes
  let providerId ← lineItemAttribute details.attributes "credit-provider"
  let courseId ← getEdxProductCourseRunKey details.sku details.attributes courseMode
  let productType ← expandedType details.toProduct
  .ok
    {emailOptIn := true, orderNumber := order.orderNumber, orderId := order.id, providerId, edxLmsUserId := lmsUserId,
      datePlaced := env.iso8601 order.lastModifiedAt, sourceSystem := args.sourceSystem, orderVersion, courseId,
      lineItemId := item.id, courseMode, itemQuantity := item.quantity, lineItemStateId, messageId := args.messageId,
      userFirstName := customer.firstName, userLastName := customer.lastName, userEmail := customer.email, productTitle,
      productType := productType.key, lob := none, edxLmsUsername := none, bundleId := none}

def forwardedData (item : ItemDetails) (username : String) (data : SerializerData) : Except Exn SerializerData := do
  let lob ← getLobFromVariantAttr item.attributes
  .ok
    {data with
      lob := some (if lob.truthy then lob else .text "edx")
      edxLmsUsername := some username
      bundleId := item.bundleId.filter (· ≠ "")}

def dispatch (order : PlacedOrder) (item : LineItem) (lmsUserId : Int) (data : SerializerData) : Call Unit :=
  let details := order.details item.id
  if args.isOrderFulfillmentForwardingEnabled then do
    match ← .perform (Request.getUser lmsUserId) with
    | none => .raise .doesNotExist
    | some username => do
      let data ← orRaise (forwardedData details username data)
      let payload ← isValid (orderFulfillmentRequestSerializer (printedNumber env) emailField data)
      .perform (Request.fulfillOrder payload)
  else do
    let payload ← isValid (orderFulfillViewInputSerializer (printedNumber env) emailField data)
    if isBundle details.bundleId then .perform (Request.sendEntitlement payload)
    else .perform (Request.sendEnrollInCourse payload)

def fulfillLineItem (order : PlacedOrder) (customer : Customer) (lmsUserId : Int) (updatedOrderVersion : Nat)
    (item : LineItem) : Call ProductInformation := do
  let details := order.details item.id
  let lineItemStateId ← getStateByKey FulfillmentState.processing.key
  let productTitle ← getProductTitle details
  let data ← orRaise
    (serializerData env args order customer lmsUserId updatedOrderVersion lineItemStateId item productTitle)
  dispatch env emailField args order item lmsUserId data
  orRaise (extractCtProductInformationForBrazeCanvas env details.toProduct details.price)

def fulfillLineItems (order : PlacedOrder) (customer : Customer) (lmsUserId : Int) (updatedOrderVersion : Nat) :
    List LineItem → Call (List ProductInformation)
  | [] => .pure []
  | item::rest => do
    let productInformation ← fulfillLineItem env emailField args order customer lmsUserId updatedOrderVersion item
    let products ← fulfillLineItems order customer lmsUserId updatedOrderVersion rest
    return productInformation::products

def canvasEntry (order : PlacedOrder) (properties : CanvasEntryProperties) (products : List ProductInformation) :
    CanvasEntry where
  order := properties
  productType := order.lineItems.getLast?.map fun item =>
    if isBundle (order.details item.id).bundleId then "program" else "course"
  products := products
  hideReceiptCta := order.mobileOrder ||
    (OrderReturned.getEdxPspPaymentId order.toOrder = none ∧ order.totalPrice.centAmount = 0)

-- One confirmation for an order, however often the message comes.
def confirm (customer : Customer) (lmsUserId : Int) (canvasEntryProperties : CanvasEntry) : Call Unit := do
  let isFound ← .perform Request.getCachedResponse
  if isFound then return ()
  else do
    .perform (Request.sendOrderConfirmationEmail lmsUserId customer.email canvasEntryProperties)
    .perform Request.setAllTiers

def fulfillOrderPlacedMessageSignalTask : Call Bool := do
  let order ← getOrderById
  let customer ← getCustomerById order.customerId
  if ¬ OrderReturned.isEdxLmsOrder order.toOrder then return true
  else match customer.lmsUserId with
    | none => .raise (.failed (.keyError "edx-lms_user_id"))
    | some lmsUserId => do
      let properties ← orRaise
        (extractCtOrderInformationForBrazeCanvas env ⟨customer.firstName,customer.lastName⟩ order.discounts)
      let updatedOrder ← updateLineItemsTransitionState order.version order.lineItems args.lineItemStateId
        FulfillmentState.processing.key
      let products ← fulfillLineItems env emailField args order customer lmsUserId updatedOrder.version order.lineItems
      confirm customer lmsUserId (canvasEntry order properties products)
      return true

end Task

structure World where
  table : StateTable
  customer : Customer
  programs : String → Option LocalizedString
  users : Int → Option String

-- `confirmed` is the entry of the cache.
structure Store where
  order : PlacedOrder
  dispatched : List OrderFulfillmentRequest
  confirmed : Bool
  emails : List CanvasEntry

-- A call gets through, or fails, or fails although Commercetools has executed it;
-- the cache fails by having lost its entry.
inductive Answer where
  | answered | refused | lost
  deriving DecidableEq

def Answer.give : Answer → Except ErrorCode α → Except ErrorCode α
  | .answered,x => x
  | _,_ => .error .unavailable

def isTransition : OrderAction → Bool
  | .transitionLineItemState _ _ fromState toState =>
    match StateTable.byKey fromState,StateTable.byKey toState with
    | some a,some b => b ∈ a.transitions
    | _,_ => false
  | .setLineItemCustomField _ _ => true

def applyTransitions (table : StateTable) (actions : List OrderAction) (order : Order) : Option Order :=
  if actions.all isTransition then applyActions table actions order else none

def orNotFound (x : Option α) : Except ErrorCode α := (x.map .ok).getD (.error .resourceNotFound)

-- The signals and the forwarding are no calls of Commercetools and always get through.
def serve (w : World) (a : Answer) : (r : Request) → Store → Response r × Store
  | .getOrderById,s => (a.give (.ok s.order),s)
  | .getCustomerById customerId,s =>
    (a.give (if customerId = s.order.customerId then .ok w.customer else .error .resourceNotFound),s)
  | .getStateById stateId,s => (a.give (orNotFound ((w.table.byId stateId).map (·.key))),s)
  | .getStateByKey stateKey,s => (a.give (orNotFound ((StateTable.byKey stateKey).map w.table.id)),s)
  | .updateById version actions,s =>
    if a = .refused then (.error .unavailable,s)
    else match Versioned.compareAndSet version s.order.toOrder (applyTransitions w.table actions) with
      | some order => (a.give (.ok {s.order with toOrder := order}),{s with order := {s.order with toOrder := order}})
      | none =>
        (a.give (.error (if s.order.version = version then .invalidOperation else .concurrentModification)),s)
  | .getProductByProgramId programId,s => (a.give (.ok (w.programs programId)),s)
  | .getUser lmsUserId,s => (w.users lmsUserId,s)
  | .sendEntitlement payload,s => ((),{s with dispatched := s.dispatched++[payload.toOrderFulfillmentRequest]})
  | .sendEnrollInCourse payload,s => ((),{s with dispatched := s.dispatched++[payload.toOrderFulfillmentRequest]})
  | .fulfillOrder payload,s => ((),{s with dispatched := s.dispatched++[payload]})
  | .getCachedResponse,s => (s.confirmed && a = .answered,s)
  | .sendOrderConfirmationEmail _ _ canvasEntryProperties,s => ((),{s with emails := s.emails++[canvasEntryProperties]})
  | .setAllTiers,s => ((),{s with confirmed := true})

section Contract
variable (w : World) (env : OrderDiscounts.Environment) (emailField : String → Bool) (args : Arguments)

def attempt (s : Store) (answers : List Answer) : Option Store :=
  (Prog.replay (serve w) (fun _ _ _ => true) (fulfillOrderPlacedMessageSignalTask env emailField args) answers s).map (·.2)

def Dispatched (s : Store) (lineItemId : String) : Prop := ∃ payload ∈ s.dispatched, payload.lineItemId = strip lineItemId
def AllDispatched (s : Store) : Prop := ∀ item ∈ s.order.lineItems, Dispatched s item.id
def AllIn (k : FulfillmentState) (s : Store) : Prop := ∀ item ∈ s.order.lineItems, InState w.table item k

instance : Decidable (Dispatched s lineItemId) := inferInstanceAs (Decidable (∃ _ ∈ _, _))
instance : Decidable (AllDispatched s) := inferInstanceAs (Decidable (∀ _ ∈ _, _))
instance : Decidable (AllIn w k s) := inferInstanceAs (Decidable (∀ _ ∈ _, _))

def updatesOrder : Request → Bool
  | .updateById _ _ => true
  | _ => false

-- A call may fail while the line items are where the message found them, the
-- transition not executed by this very call, or when nothing is left to dispatch.
def Harmless (k : FulfillmentState) (a : Answer) (s : Store) (r : Request) : Prop :=
  a = .answered ∨ AllDispatched s ∨ AllIn w k s ∧ (a = .lost → updatesOrder r = false)

instance : Decidable (Harmless w k a s r) := inferInstanceAs (Decidable (_ ∨ _ ∨ _ ∧ (_ → _)))

def harmless (k : FulfillmentState) (s : Store) (answers : List Answer) : Bool :=
  (Prog.replay (serve w) (fun a s r => decide (Harmless w k a s r)) (fulfillOrderPlacedMessageSignalTask env emailField args)
    answers s).isSome

-- A retry in which no call fails sends the signal of every line item that has
-- not been sent before.
def Completable (s : Store) : Prop :=
  ∀ item ∈ s.order.lineItems,
    Dispatched (Prog.exec (serve w .answered) (fulfillOrderPlacedMessageSignalTask env emailField args) s).2 item.id

instance : Decidable (Completable w env emailField args s) := inferInstanceAs (Decidable (∀ _ ∈ _, _))

def titleOf (item : ItemDetails) : String :=
  if isBundle item.bundleId then (pick ((w.programs (item.bundleId.getD "")).getD item.name) "en-US").getD ""
  else (pick item.name "en-US").getD ""

def Accepted (order : PlacedOrder) (lmsUserId : Int) (item : LineItem) : Prop :=
  ∀ orderVersion, ∃ data, serializerData env args order w.customer lmsUserId orderVersion (w.table.id .processing) item
      (titleOf w (order.details item.id)) = .ok data ∧
    if args.isOrderFulfillmentForwardingEnabled then ∃ username, w.users lmsUserId = some username ∧
      ∃ forwarded, forwardedData (order.details item.id) username data = .ok forwarded ∧
        (orderFulfillmentRequestSerializer (printedNumber env) emailField forwarded).isSome
    else (orderFulfillViewInputSerializer (printedNumber env) emailField data).isSome

def Deliverable (order : PlacedOrder) : Prop :=
  DiscountNamed order.discounts ∧ ∃ lmsUserId, w.customer.lmsUserId = some lmsUserId ∧
    ∀ item ∈ order.lineItems, Accepted w env emailField args order lmsUserId item ∧
      DurationLabelled (order.details item.id).toProduct

end Contract

section Transitions
variable {table : StateTable} {a b : FulfillmentState} {order : Order} {item : LineItem}
  {done rest : List LineItem}

def moved (table : StateTable) (k : FulfillmentState) (item : LineItem) : LineItem :=
  {item with state := [⟨item.quantity,table.id k⟩]}

theorem moved_in (table : StateTable) (k : FulfillmentState) (item : LineItem) : InState table (moved table k item) k := rfl

theorem item_found (fresh : ∀ other ∈ done, other.id ≠ item.id) :
    (done++item::rest).find? (·.id = item.id) = some item := by
  rw [List.find?_append,List.find?_eq_none.mpr (by simpa using fresh),Option.none_or,List.find?_cons_of_pos (by simp)]

theorem item_replaced (fresh : ∀ other ∈ done, other.id ≠ item.id) (later : ∀ other ∈ rest, other.id ≠ item.id)
    (changed : LineItem) :
    (done++item::rest).map (fun other => if other.id = item.id then changed else other) = done++changed::rest := by
  have kept : ∀ items : List LineItem, (∀ other ∈ items, other.id ≠ item.id) →
      items.map (fun other => if other.id = item.id then changed else other) = items := by
    intro items apart
    conv => rhs; rw [← List.map_id items]
    exact List.map_congr_left fun other member => if_neg (apart other member)
  rw [List.map_append,List.map_cons,if_pos rfl,kept done fresh,kept rest later]

theorem item_transition (fresh : ∀ other ∈ done, other.id ≠ item.id) (later : ∀ other ∈ rest, other.id ≠ item.id)
    (at_a : InState table item a) :
    applyAction table (done++item::rest) (.transitionLineItemState item.id item.quantity a.key b.key) =
      some (done++moved table b item::rest) := by
  simp only [applyAction,StateTable.by_key,Option.bind_some,Option.bind_eq_bind,updateLineItemOf,item_found fresh]
  rw [at_a,Fulfillment.transition_all,Option.bind_some,Option.map_some,item_replaced fresh later]
  rfl

theorem items_transition (distinct : ((done++rest).map (·.id)).Nodup) (at_a : ∀ item ∈ rest, InState table item a) :
    (transitionActions rest a.key b.key).foldlM (applyAction table) (done.map (moved table b)++rest) =
      some ((done++rest).map (moved table b)) := by
  induction rest generalizing done with
  | nil => simp [transitionActions]
  | cons item rest ih =>
    have split := distinct
    rw [List.map_append,List.nodup_append] at split
    obtain ⟨_,after,apart⟩ := split
    have fresh : ∀ other ∈ done.map (moved table b), other.id ≠ item.id := by
      intro other member
      obtain ⟨before,earlier,rfl⟩ := List.mem_map.mp member
      exact apart _ (List.mem_map_of_mem earlier) _ (by simp)
    have later : ∀ other ∈ rest, other.id ≠ item.id := by
      intro other member same
      have repeated : other.id ∈ rest.map (·.id) := List.mem_map_of_mem member
      rw [same] at repeated
      exact (List.nodup_cons.mp after).1 repeated
    have rotated : done.map (moved table b)++moved table b item::rest = (done++[item]).map (moved table b)++rest := by simp
    rw [transitionActions,List.map_cons,List.foldlM_cons,item_transition fresh later (at_a item List.mem_cons_self),
      Option.bind_eq_bind,Option.bind_some,rotated]
    have folded := @ih (done++[item]) (by simpa using distinct) fun other member => at_a other (List.mem_cons_of_mem _ member)
    rw [List.append_assoc,List.singleton_append] at folded
    exact folded

theorem items_moved (edge : b ∈ a.transitions) (distinct : (order.lineItems.map (·.id)).Nodup)
    (at_a : ∀ item ∈ order.lineItems, InState table item a) :
    applyTransitions table (transitionActions order.lineItems a.key b.key) order =
      some {order with lineItems := order.lineItems.map (moved table b), version := order.version+1} := by
  have legal : (transitionActions order.lineItems a.key b.key).all isTransition = true := by
    simp [transitionActions,isTransition,StateTable.by_key,edge]
  have folded := @items_transition table a b [] order.lineItems distinct at_a
  rw [applyTransitions,if_pos legal,applyActions]
  simp only [List.map_nil,List.nil_append] at folded
  rw [folded]
  rfl

theorem items_refused (nonempty : order.lineItems ≠ []) (at_b : ∀ item ∈ order.lineItems, InState table item b)
    (apart : a ≠ b) (target : FulfillmentState) :
    applyTransitions table (transitionActions order.lineItems a.key target.key) order = none := by
  unfold applyTransitions
  split
  · cases items : order.lineItems with
    | nil => exact absurd items nonempty
    | cons item rest =>
      have here : InState table item b := at_b item (items ▸ List.mem_cons_self)
      have elsewhere : transition item.state item.quantity (table.id a) (table.id target) = none := by
        have other : table.id b ≠ table.id a := fun same => apart (table.injective same).symm
        rw [here]
        simp [transition,other]
      have first : applyAction table (item::rest) (.transitionLineItemState item.id item.quantity a.key target.key) = none := by
        simp [applyAction,StateTable.by_key,updateLineItemOf,elsewhere]
      simp only [applyActions,transitionActions,List.map_cons,List.foldlM_cons,items,first]
      rfl
  · rfl

end Transitions

def Same (s₀ s : Store) : Prop :=
  {s.order with lineItems := [], version := 0} = {s₀.order with lineItems := [], version := 0} ∧
    s.order.lineItems.map (fun item => {item with state := []}) = s₀.order.lineItems.map fun item => {item with state := []}

def Rests (w : World) (k : FulfillmentState) (s : Store) : Prop := AllIn w k s ∨ AllIn w .processing s ∧ AllDispatched s

def Allowed (w : World) (k : FulfillmentState) (strict : Prop) (a : Answer) (s : Store) (r : Request) : Prop :=
  a = .answered ∨ ¬ strict ∧ Harmless w k a s r

def Ended (w : World) (k : FulfillmentState) (strict : Prop) (s₀ s : Store) : Prop :=
  Same s₀ s ∧ Rests w k s ∧ (strict → AllDispatched s)

abbrev Meets (w : World) (k : FulfillmentState) (strict : Prop) (post : Except Interruption α → Store → Prop)
    (p : Call α) (s : Store) : Prop :=
  Prog.wp (serve w) (Allowed w k strict) post p s

section Calls
variable {w : World} {k : FulfillmentState} {strict : Prop} {s₀ s : Store} {post : Except Interruption α → Store → Prop}

theorem read_meets {r : Request} {next : Response r → Call α} (unchanged : ∀ a, (serve w a r s).2 = s)
    (good : Meets w k strict post (next (serve w .answered r s).1) s)
    (refused : next (serve w .refused r s).1 = .raise (raised .unavailable))
    (lost : next (serve w .lost r s).1 = .raise (raised .unavailable))
    (ends : ¬ strict → AllDispatched s ∨ AllIn w k s → post (.error (raised .unavailable)) s) :
    Meets w k strict post (.call r next) s := by
  have failed : ∀ a, a ≠ .answered → next (serve w a r s).1 = .raise (raised .unavailable) := by
    intro a failing
    cases a with
    | answered => exact absurd rfl failing
    | refused => exact refused
    | lost => exact lost
  intro a ok
  rw [unchanged]
  by_cases answered : a = .answered
  · rw [answered]
    exact good
  · rw [failed a answered]
    obtain ⟨loose,harmless⟩ := ok.resolve_left answered
    exact ends loose ((harmless.resolve_left answered).imp_right And.left)

theorem get_order_meets {f : PlacedOrder → Call α} (good : Meets w k strict post (f s.order) s)
    (ends : ¬ strict → AllDispatched s ∨ AllIn w k s → post (.error (raised .unavailable)) s) :
    Meets w k strict post (getOrderById.bind f) s :=
  read_meets (fun _ => rfl) good rfl rfl ends

theorem get_customer_meets {f : Customer → Call α} (good : Meets w k strict post (f w.customer) s)
    (ends : ¬ strict → AllDispatched s ∨ AllIn w k s → post (.error (raised .unavailable)) s) :
    Meets w k strict post ((getCustomerById s.order.customerId).bind f) s := by
  refine read_meets (fun _ => rfl) ?_ rfl rfl ends
  simp only [serve,Answer.give,if_true]
  exact good

theorem get_state_by_id_meets {f : String → Call α} (state : FulfillmentState) (good : Meets w k strict post (f state.key) s)
    (ends : ¬ strict → AllDispatched s ∨ AllIn w k s → post (.error (raised .unavailable)) s) :
    Meets w k strict post ((getStateById (w.table.id state)).bind f) s := by
  refine read_meets (fun _ => rfl) ?_ rfl rfl ends
  simp only [serve,Answer.give,StateTable.by_id,Option.map_some]
  exact good

theorem get_state_by_key_meets {f : String → Call α} (state : FulfillmentState)
    (good : Meets w k strict post (f (w.table.id state)) s)
    (ends : ¬ strict → AllDispatched s ∨ AllIn w k s → post (.error (raised .unavailable)) s) :
    Meets w k strict post ((getStateByKey state.key).bind f) s := by
  refine read_meets (fun _ => rfl) ?_ rfl rfl ends
  simp only [serve,Answer.give,StateTable.by_key,Option.map_some]
  exact good

theorem get_product_title_meets {f : String → Call α} (item : ItemDetails) (good : Meets w k strict post (f (titleOf w item)) s)
    (ends : ¬ strict → AllDispatched s ∨ AllIn w k s → post (.error (raised .unavailable)) s) :
    Meets w k strict post ((getProductTitle item).bind f) s := by
  unfold getProductTitle
  unfold titleOf at good
  split
  · rename_i bundle
    rw [if_pos bundle] at good
    refine read_meets (fun _ => rfl) ?_ rfl rfl ends
    cases found : w.programs (item.bundleId.getD "") with
    | none =>
      rw [found] at good
      simp only [serve,Answer.give,found]
      exact good
    | some name =>
      rw [found] at good
      simp only [serve,Answer.give,found]
      exact good
  · rename_i single
    rw [if_neg single] at good
    exact good

end Calls

section Loop
variable {w : World} {k : FulfillmentState} {strict : Prop} {s₀ s : Store} {env : OrderDiscounts.Environment}
  {emailField : String → Bool} {args : Arguments} {order : PlacedOrder} {lmsUserId : Int}

def Sent (s : Store) (item : LineItem) (t : Store) : Prop :=
  ∃ payload : OrderFulfillmentRequest, payload.lineItemId = strip item.id ∧
    t = {s with dispatched := s.dispatched++[payload]}

theorem data_line_item {customer : Customer} {orderVersion : Nat} {lineItemStateId productTitle : String} {item : LineItem}
    {data : SerializerData} (read : serializerData env args order customer lmsUserId orderVersion lineItemStateId item
      productTitle = .ok data) : data.lineItemId = item.id := by
  unfold serializerData at read
  cases mode : getCourseModeFromCtOrder (order.details item.id).attributes with
  | error e => simp [mode,bind,Except.bind] at read
  | ok courseMode =>
    cases provider : lineItemAttribute (order.details item.id).attributes "credit-provider" with
    | error e => simp [mode,provider,bind,Except.bind] at read
    | ok providerId =>
      cases key : getEdxProductCourseRunKey (order.details item.id).sku (order.details item.id).attributes courseMode with
      | error e => simp [mode,provider,key,bind,Except.bind] at read
      | ok courseId =>
        cases typed : expandedType (order.details item.id).toProduct with
        | error e => simp [mode,provider,key,typed,bind,Except.bind] at read
        | ok productType =>
          simp only [mode,provider,key,typed,bind,Except.bind,Except.ok.injEq] at read
          rw [← read]

theorem forwarded_line_item {item : ItemDetails} {username : String} {data forwarded : SerializerData}
    (read : forwardedData item username data = .ok forwarded) : forwarded.lineItemId = data.lineItemId := by
  unfold forwardedData at read
  cases business : getLobFromVariantAttr item.attributes with
  | error e => simp [business,bind,Except.bind] at read
  | ok lob =>
    simp only [business,bind,Except.bind,Except.ok.injEq] at read
    rw [← read]

theorem dispatch_meets {item : LineItem} {orderVersion : Nat}
    (accepted : Accepted w env emailField args order lmsUserId item) :
    ∃ data, serializerData env args order w.customer lmsUserId orderVersion (w.table.id .processing) item
        (titleOf w (order.details item.id)) = .ok data ∧
      Meets w k strict (fun out t => out = .ok () ∧ Sent s item t)
        (dispatch env emailField args order item lmsUserId data) s := by
  obtain ⟨data,read,valid⟩ := accepted orderVersion
  have named := data_line_item read
  refine ⟨data,read,?_⟩
  unfold dispatch
  split
  · rename_i forwarding
    rw [if_pos forwarding] at valid
    obtain ⟨username,found,forwarded,known,valid⟩ := valid
    obtain ⟨payload,valid⟩ := Option.isSome_iff_exists.mp valid
    have trimmed : payload.lineItemId = strip item.id := by
      rw [request_line_item _ _ valid,forwarded_line_item known,named]
    intro a _
    simp only [serve,found,known,orRaise,Prog.or_raise_ok,Prog.pure_bind,Prog.monad_bind,isValid,valid]
    exact fun a _ => ⟨rfl,payload,trimmed,rfl⟩
  · rename_i direct
    rw [if_neg direct] at valid
    obtain ⟨payload,valid⟩ := Option.isSome_iff_exists.mp valid
    have trimmed : payload.lineItemId = strip item.id := by
      rw [input_line_item _ _ valid,named]
    simp only [isValid,valid,Prog.monad_bind,Prog.pure_bind]
    split
    · exact fun a _ => ⟨rfl,payload.toOrderFulfillmentRequest,trimmed,rfl⟩
    · exact fun a _ => ⟨rfl,payload.toOrderFulfillmentRequest,trimmed,rfl⟩

theorem line_item_meets {item : LineItem} {orderVersion : Nat}
    (accepted : Accepted w env emailField args order lmsUserId item)
    (labelled : DurationLabelled (order.details item.id).toProduct)
    {post : Except Interruption ProductInformation → Store → Prop}
    (sent : ∀ information t, Sent s item t → post (.ok information) t)
    (ends : ¬ strict → AllDispatched s ∨ AllIn w k s → post (.error (raised .unavailable)) s) :
    Meets w k strict post (fulfillLineItem env emailField args order w.customer lmsUserId orderVersion item) s := by
  obtain ⟨data,read,dispatched⟩ :=
    @dispatch_meets w k strict s env emailField args order lmsUserId item orderVersion accepted
  obtain ⟨information,described⟩ := (OrderDiscounts.product_information_read env
    (order.details item.id).price).mpr labelled
  apply get_state_by_key_meets _ _ ends
  apply get_product_title_meets _ _ ends
  simp only [read,orRaise,Prog.or_raise_ok,Prog.pure_bind,Prog.monad_bind,described]
  apply Prog.wp_bind.mpr
  apply Prog.wp_mono dispatched
  intro out t both
  obtain ⟨rfl,done⟩ := both
  exact sent information t done

-- The loop has come to `rest`: the line items before it have been dispatched.
structure Reached (w : World) (s₀ s : Store) (rest : List LineItem) : Prop where
  same : Same s₀ s
  processing : AllIn w .processing s
  done : ∀ item ∈ s.order.lineItems, item.id ∈ rest.map (·.id) ∨ Dispatched s item.id

theorem Reached.send {item : LineItem} {rest : List LineItem} {t : Store} (reached : Reached w s₀ s (item::rest))
    (sent : Sent s item t) : Reached w s₀ t rest := by
  obtain ⟨payload,named,rfl⟩ := sent
  refine ⟨reached.same,reached.processing,fun other member => ?_⟩
  rcases reached.done other member with waiting | ⟨earlier,present,same⟩
  · rcases List.mem_cons.mp waiting with here | later
    · exact .inr ⟨payload,by simp,named.trans (congrArg strip here.symm)⟩
    · exact .inl later
  · exact .inr ⟨earlier,List.mem_append_left _ present,same⟩

theorem Reached.ended {rest : List LineItem} (reached : Reached w s₀ s rest) (loose : ¬ strict)
    (harmless : AllDispatched s ∨ AllIn w k s) : Ended w k strict s₀ s := by
  refine ⟨reached.same,?_,fun strict => absurd strict loose⟩
  rcases harmless with dispatched | unmoved
  · exact .inr ⟨reached.processing,dispatched⟩
  · exact .inl unmoved

theorem line_items_meet {orderVersion : Nat} {rest : List LineItem} (reached : Reached w s₀ s rest)
    (fit : ∀ item ∈ rest, Accepted w env emailField args order lmsUserId item ∧
      DurationLabelled (order.details item.id).toProduct) :
    Meets w k strict (fun _ t => Ended w k strict s₀ t)
      (fulfillLineItems env emailField args order w.customer lmsUserId orderVersion rest) s := by
  induction rest generalizing s with
  | nil =>
    have dispatched : AllDispatched s := fun item member => (reached.done item member).resolve_left (by simp)
    exact ⟨reached.same,.inr ⟨reached.processing,dispatched⟩,fun _ => dispatched⟩
  | cons item rest ih =>
    obtain ⟨first,later⟩ := List.forall_mem_cons.mp fit
    apply Prog.wp_bind.mpr
    apply line_item_meets first.1 first.2
    · intro information t sent
      apply Prog.wp_bind.mpr
      apply Prog.wp_mono (ih (reached.send sent) later)
      intro out u ended
      cases out with
      | ok products => exact ended
      | error e => exact ended
    · exact fun loose harmless => reached.ended loose harmless

theorem Ended.confirmed (ended : Ended w k strict s₀ s) (confirmed : Bool) (emails : List CanvasEntry) :
    Ended w k strict s₀ {s with confirmed := confirmed, emails := emails} := ended

theorem confirm_meets {customer : Customer} {entry : CanvasEntry} (ended : Ended w k strict s₀ s) :
    Meets w k strict (fun _ t => Ended w k strict s₀ t) (confirm customer lmsUserId entry) s := by
  intro a _
  simp only [serve,Prog.pure_bind]
  split
  · exact ended
  · exact fun _ _ _ _ => ended.confirmed true (s.emails++[entry])

end Loop

section Transition
variable {w : World} {k : FulfillmentState} {strict : Prop} {s₀ s t : Store} {post : Except Interruption PlacedOrder → Store → Prop}

def unmoved (item : LineItem) : LineItem := {item with state := []}

theorem Same.refl (s : Store) : Same s s := ⟨rfl,rfl⟩
theorem Same.trans {u : Store} (first : Same s t) (second : Same t u) : Same s u :=
  ⟨second.1.trans first.1,second.2.trans first.2⟩

theorem Same.ids (same : Same s₀ s) : s.order.lineItems.map (·.id) = s₀.order.lineItems.map (·.id) := by
  have stripped := congrArg (List.map LineItem.id) same.2
  simpa [List.map_map,Function.comp_def] using stripped

theorem Same.item (same : Same s₀ s) {item : LineItem} (member : item ∈ s.order.lineItems) :
    ∃ before ∈ s₀.order.lineItems, unmoved before = unmoved item := by
  have stripped : unmoved item ∈ s.order.lineItems.map unmoved := List.mem_map_of_mem member
  rw [show s.order.lineItems.map unmoved = s₀.order.lineItems.map unmoved from same.2] at stripped
  exact List.mem_map.mp stripped

def Store.moved (w : World) (b : FulfillmentState) (s : Store) : Store :=
  {s with order := {s.order with
    lineItems := s.order.lineItems.map (OrderPlaced.moved w.table b), version := s.order.version+1}}

theorem Same.moved (b : FulfillmentState) : Same s (s.moved w b) := by
  refine ⟨rfl,?_⟩
  simp [Store.moved,OrderPlaced.moved,List.map_map,Function.comp_def]

theorem AllIn.moved (b : FulfillmentState) : AllIn w b (s.moved w b) := by
  intro item member
  obtain ⟨before,_,rfl⟩ := List.mem_map.mp member
  exact moved_in w.table b before

theorem AllDispatched.moved (b : FulfillmentState) (dispatched : AllDispatched s) : AllDispatched (s.moved w b) := by
  intro item member
  obtain ⟨before,present,rfl⟩ := List.mem_map.mp member
  exact dispatched before present

theorem Rests.ended (rests : Rests w k s) (loose : ¬ strict) : Ended w k strict s s :=
  ⟨Same.refl s,rests,fun strict => absurd strict loose⟩

-- Line items still in Pending are moved by a call that gets through; a call that
-- is lost may move them only when nothing is left to dispatch.
theorem update_meets (distinct : (s.order.lineItems.map (·.id)).Nodup) (pending : AllIn w .pending s)
    (moves : ∀ updated, post (.ok updated) (s.moved w .processing))
    (ends : ∀ e t, Ended w .pending strict s t → post (.error e) t) :
    Meets w .pending strict post (updateById s.order.version
      (transitionActions s.order.lineItems FulfillmentState.pending.key FulfillmentState.processing.key)) s := by
  have accepted : Versioned.compareAndSet s.order.version s.order.toOrder (applyTransitions w.table
      (transitionActions s.order.lineItems FulfillmentState.pending.key FulfillmentState.processing.key)) =
      some (s.moved w .processing).order.toOrder :=
    Versioned.compareAndSet_some.mpr ⟨rfl,items_moved (by decide) distinct pending⟩
  intro a ok
  cases a with
  | answered =>
    simp only [serve,accepted]
    exact moves _
  | refused =>
    simp only [serve]
    exact ends _ _ (Rests.ended (.inl pending) fun strict => (ok.resolve_left nofun).1 strict)
  | lost =>
    obtain ⟨loose,harmless⟩ := ok.resolve_left nofun
    have dispatched : AllDispatched s := by
      rcases harmless.resolve_left nofun with dispatched | ⟨_,read⟩
      · exact dispatched
      · exact absurd (read rfl) (by simp [updatesOrder])
    simp only [serve,accepted]
    exact ends _ _ ⟨Same.moved _,.inr ⟨AllIn.moved _,dispatched.moved _⟩,fun strict => absurd strict loose⟩

theorem update_refused (nonempty : s.order.lineItems ≠ []) (processing : AllIn w .processing s)
    (ends : ∀ e, post (.error e) s) :
    Meets w k strict post (updateById s.order.version
      (transitionActions s.order.lineItems FulfillmentState.pending.key FulfillmentState.processing.key)) s := by
  have rejected : Versioned.compareAndSet s.order.version s.order.toOrder (applyTransitions w.table
      (transitionActions s.order.lineItems FulfillmentState.pending.key FulfillmentState.processing.key)) = none := by
    unfold Versioned.compareAndSet
    split
    · exact items_refused nonempty processing (by decide) .processing
    · rfl
  intro a _
  cases a with
  | answered => simp only [serve,rejected]; exact ends _
  | refused => exact ends _
  | lost => simp only [serve,rejected]; exact ends _

def Startable (k : FulfillmentState) : Prop := k = .pending ∨ k = .processing

theorem transition_meets (startable : Startable k) (distinct : (s.order.lineItems.map (·.id)).Nodup)
    (nonempty : s.order.lineItems ≠ []) (rests : Rests w k s)
    (moves : ∀ updated t, Same s t → AllIn w .processing t → post (.ok updated) t)
    (ends : ∀ e t, Ended w k strict s t → post (.error e) t) :
    Meets w k strict post (updateLineItemsTransitionState s.order.version s.order.lineItems (w.table.id k)
      FulfillmentState.processing.key) s := by
  apply get_state_by_id_meets
  · rcases startable with rfl | rfl
    · rw [if_pos (by decide)]
      rcases rests with pending | ⟨processing,dispatched⟩
      · exact update_meets distinct pending (fun updated => moves updated _ (Same.moved _) (AllIn.moved _)) ends
      · exact update_refused nonempty processing fun e =>
          ends e s ⟨Same.refl s,.inr ⟨processing,dispatched⟩,fun _ => dispatched⟩
    · have processing : AllIn w .processing s := rests.elim id And.left
      rw [if_neg (by simp),← Prog.bind_pure getOrderById]
      exact get_order_meets (moves _ _ (Same.refl s) processing) fun loose _ => ends _ _ (rests.ended loose)
  · exact fun loose _ => ends _ _ (rests.ended loose)

end Transition

section Run
variable {w : World} {k : FulfillmentState} {strict : Prop} {s₀ s t : Store} {env : OrderDiscounts.Environment}
  {emailField : String → Bool} {args : Arguments}

theorem Same.accepted (same : Same s₀ s) {before item : LineItem} (like : unmoved before = unmoved item) {lmsUserId : Int}
    (accepted : Accepted w env emailField args s₀.order lmsUserId before) :
    Accepted w env emailField args s.order lmsUserId item := by
  have settled : Accepted w env emailField args {s₀.order with lineItems := [], version := 0} lmsUserId (unmoved before) :=
    accepted
  rw [← same.1,like] at settled
  exact settled

theorem Same.details (same : Same s₀ s) : s.order.details = s₀.order.details := by
  have kept := congrArg PlacedOrder.details same.1
  exact kept

theorem Same.discounts (same : Same s₀ s) : s.order.discounts = s₀.order.discounts := by
  have lines := congrArg (List.map fun item : LineItem => OrderDiscounts.LineItem.mk item.id item.quantity
    (s₀.order.details item.id).price (s₀.order.details item.id).discountedPricePerQuantity) same.2
  simp only [List.map_map,Function.comp_def] at lines
  have settled : ({s.order with lineItems := [], version := 0} : PlacedOrder).discounts =
      ({s₀.order with lineItems := [], version := 0} : PlacedOrder).discounts := congrArg PlacedOrder.discounts same.1
  unfold PlacedOrder.discounts at settled ⊢
  rw [OrderDiscounts.Order.mk.injEq] at settled ⊢
  rw [same.details]
  exact ⟨settled.1,settled.2.1,lines,settled.2.2.2⟩

theorem Same.deliverable (same : Same s₀ s) (deliverable : Deliverable w env emailField args s₀.order) :
    Deliverable w env emailField args s.order := by
  obtain ⟨named,lmsUserId,known,fit⟩ := deliverable
  refine ⟨same.discounts ▸ named,lmsUserId,known,?_⟩
  intro item member
  obtain ⟨before,present,like⟩ := same.item member
  obtain ⟨accepted,labelled⟩ := fit before present
  have id : item.id = before.id := (congrArg LineItem.id like).symm
  rw [same.details,id]
  exact ⟨same.accepted like accepted,labelled⟩

-- One attempt leaves every line item where it was, or all of them dispatched.
theorem task_meets (startable : Startable k) (args_from : args.lineItemStateId = w.table.id k)
    (distinct : (s.order.lineItems.map (·.id)).Nodup) (deliverable : Deliverable w env emailField args s.order)
    (rests : Rests w k s) :
    Meets w k strict (fun _ t => Ended w k strict s t) (fulfillOrderPlacedMessageSignalTask env emailField args) s := by
  obtain ⟨named,lmsUserId,known,fit⟩ := deliverable
  obtain ⟨properties,shown⟩ := (OrderDiscounts.order_information_read env
    ⟨w.customer.firstName,w.customer.lastName⟩).mpr named
  have ends : ¬ strict → AllDispatched s ∨ AllIn w k s → Ended w k strict s s := fun loose _ => rests.ended loose
  apply get_order_meets _ ends
  apply get_customer_meets _ ends
  split
  · rename_i none_listed
    have empty : s.order.lineItems = [] := by simpa [OrderReturned.isEdxLmsOrder] using none_listed
    exact ⟨Same.refl s,rests,fun _ item member => by simp [empty] at member⟩
  · rename_i listed
    have nonempty : s.order.lineItems ≠ [] := by simpa [OrderReturned.isEdxLmsOrder] using listed
    simp only [known,args_from,shown,orRaise,Prog.or_raise_ok,Prog.pure_bind,Prog.monad_bind]
    apply Prog.wp_bind.mpr
    refine transition_meets startable distinct nonempty rests ?_ fun e t ended => ended
    intro updated t same processing
    apply Prog.wp_bind.mpr
    have reached : Reached w s t s.order.lineItems := by
      refine ⟨same,processing,?_⟩
      intro item member
      rw [← same.ids]
      exact .inl (List.mem_map_of_mem member)
    apply Prog.wp_mono (line_items_meet reached fit)
    intro out u ended
    cases out with
    | ok products =>
      apply Prog.wp_bind.mpr
      apply Prog.wp_mono (confirm_meets ended)
      intro out v ended
      cases out with
      | ok _ => exact ended
      | error _ => exact ended
    | error _ => exact ended

abbrev Attempts (w : World) (env : OrderDiscounts.Environment) (emailField : String → Bool) (args : Arguments) (ok : Store → List Answer → Prop) :
    Store → List (List Answer) → Store → Prop :=
  RunsWhen (attempt w env emailField args) ok

theorem rests_completable (startable : Startable k) (args_from : args.lineItemStateId = w.table.id k)
    (distinct : (s.order.lineItems.map (·.id)).Nodup) (deliverable : Deliverable w env emailField args s.order)
    (rests : Rests w k s) : Completable w env emailField args s := by
  have meets := @task_meets w k True s env emailField args startable args_from distinct deliverable rests
  have ended := @Prog.wp_exec _ _ _ _ _ _ _ _ _ _ .answered (fun _ _ => .inl rfl) _ meets
  intro item member
  have listed : item.id ∈ (Prog.exec (serve w .answered) (fulfillOrderPlacedMessageSignalTask env emailField args) s).2.order.lineItems.map
      (·.id) := by
    rw [ended.1.ids]
    exact List.mem_map_of_mem member
  obtain ⟨after,present,same⟩ := List.mem_map.mp listed
  rw [← same]
  exact ended.2.2 trivial after present

theorem attempt_rests (startable : Startable k) (args_from : args.lineItemStateId = w.table.id k)
    (distinct : (s.order.lineItems.map (·.id)).Nodup) (deliverable : Deliverable w env emailField args s.order)
    (rests : Rests w k s) (ok : harmless w env emailField args k s answers = true)
    (ran : attempt w env emailField args s answers = some t) : Same s t ∧ Rests w k t := by
  obtain ⟨⟨out,u⟩,tested⟩ := Option.isSome_iff_exists.mp ok
  have untested := Prog.replay_untested tested
  rw [attempt,untested] at ran
  cases ran
  have meets := @task_meets w k False s env emailField args startable args_from distinct deliverable rests
  have weaker : Prog.wp (serve w) (fun a s r => decide (Harmless w k a s r) = true)
      (fun _ t => Ended w k False s t) (fulfillOrderPlacedMessageSignalTask env emailField args) s := by
    refine Prog.wp_allowed meets ?_
    intro a s r tested
    exact .inr ⟨id,of_decide_eq_true tested⟩
  have ended := Prog.wp_replay weaker tested
  exact ⟨ended.1,ended.2.1⟩

theorem always_completable (startable : Startable k) (args_from : args.lineItemStateId = w.table.id k)
    (start : AllIn w k s₀) (distinct : (s₀.order.lineItems.map (·.id)).Nodup)
    (deliverable : Deliverable w env emailField args s₀.order)
    (path : Attempts w env emailField args (fun s answers => harmless w env emailField args k s answers = true) s₀ attempts s) :
    Completable w env emailField args s := by
  have kept : Same s₀ s ∧ Rests w k s := by
    refine path.preserves (fun s => Same s₀ s ∧ Rests w k s) ⟨Same.refl s₀,.inl start⟩ ?_
    intro middle answers next both ok ran
    obtain ⟨same,rests⟩ := both
    obtain ⟨kept,rests⟩ := attempt_rests startable args_from (same.ids ▸ distinct) (same.deliverable deliverable) rests ok ran
    exact ⟨same.trans kept,rests⟩
  exact rests_completable startable args_from (kept.1.ids ▸ distinct) (kept.1.deliverable deliverable) kept.2

end Run

section Runs
open Fulfillment (keyTable)

def environment : OrderDiscounts.Environment where
  lmsDashboardUrl := "https://courses"
  commerceCoordinatorUrl := "https://coordinator"
  orderReceipt := "/receipt"
  date := fun _ => "Nov 06, 2024"
  time := fun _ => "10:00 AM (UTC)"
  iso8601 := fun _ => "2024-11-06T10:00:00Z"
  printed := fun
    | .text value => value
    | _ => ""
  formatCurrency := fun _ _ => some "$100.00"
  currencySymbol := fun _ => some "$"
  twoDecimals := fun _ => "100.00"

def emailField (email : String) : Bool := email.toList.any (· = '@')
def details (sku : String) : ItemDetails where
  productKey := some "course-key"
  name := [("en-US","Course")]
  productType := some ⟨some "edx_course","edX Course"⟩
  sku := some sku
  attributes := some [⟨"mode",.dict 2 (.text "verified")⟩]
  images := []
  price := ⟨⟨100,"USD",2,none⟩,none⟩
  discountedPricePerQuantity := []
  bundleId := none

def course (id : String) : LineItem := ⟨id,1,⟨100,"USD",some 2⟩,[⟨1,keyTable.id .pending⟩],none⟩
def twoCourses : PlacedOrder :=
  {id := "order", version := 1, customerId := "customer", mobileOrder := false, lineItems := [course "first",course "second"],
    totalPrice := ⟨200,"USD",some 2⟩, returnInfo := [], payments := [], orderNumber := some "2U-000001",
    lastModifiedAt := 1730887200000, discountOnTotalPrice := none, discountCodes := [], details := details}
def world : World := ⟨keyTable,⟨some 1,some "Ada",some "L","ada@example.com"⟩,fun _ => none,fun _ => none⟩
def arguments : Arguments := ⟨keyTable.id .pending,"CommercetoolsOrderAction","message",false⟩
def placed : Store := ⟨twoCourses,[],false,[]⟩
def answered (n : Nat) : List Answer := List.replicate n .answered

def requested (item : LineItem) (orderVersion : Nat) : Except Exn SerializerData :=
  serializerData environment arguments twoCourses world.customer 1 orderVersion (world.table.id .processing) item
    (titleOf world (twoCourses.details item.id))

theorem two_courses_deliverable : Deliverable world environment emailField arguments twoCourses := by
  have valid : ∀ item ∈ twoCourses.lineItems, (requested item 0).toOption.any (fun data =>
      (orderFulfillmentRequestSerializer (printedNumber environment) emailField data).isSome) = true := by decide +kernel
  have texts : (textField (world.table.id .processing)).isSome ∧ (textField arguments.messageId).isSome := by decide +kernel
  refine ⟨.inl (by decide +kernel),1,rfl,?_⟩
  intro item member
  refine ⟨fun orderVersion => ⟨_,rfl,?_⟩,⟨_,rfl,?_⟩⟩
  · exact (input_accepted _ _).mpr ⟨valid item member,texts⟩
  · exact fun value given => by simp [LegacyOrders.attributeDict] at given

theorem delivered_again : ∃ s, Attempts world environment emailField arguments
      (fun s answers => harmless world environment emailField arguments .pending s answers = true) placed
      [[.refused],answered 11,answered 3++[.lost]] s ∧
    s.dispatched.length = 2 ∧ Completable world environment emailField arguments s := by
  have ran : (guardedRun (attempt world environment emailField arguments) (harmless world environment emailField arguments .pending) placed
      [[.refused],answered 11,answered 3++[.lost]]).any (·.dispatched.length = 2) = true := by decide +kernel
  obtain ⟨s,ran,sent⟩ := (Option.any_eq_true _ _).mp ran
  have path := RunsWhen.nil.guarded (fun _ _ tested => tested) ran
  exact ⟨s,path,of_decide_eq_true sent,
    always_completable (.inl rfl) rfl (by decide +kernel) (by decide) two_courses_deliverable path⟩

-- The first state that is read in the loop is not answered: the transition
-- requested again is rejected, and nothing is ever sent.
theorem moved_never_dispatched : AllIn world .pending placed ∧ Deliverable world environment emailField arguments placed.order ∧
    ∃ s, Attempts world environment emailField arguments (fun _ _ => True) placed [answered 4++[.refused]] s ∧
      ¬ Completable world environment emailField arguments s := by
  have ran : (guardedRun (attempt world environment emailField arguments) (fun _ _ => true) placed
      [answered 4++[.refused]]).any (fun s => ¬ Completable world environment emailField arguments s) = true := by decide +kernel
  obtain ⟨s,ran,stuck⟩ := (Option.any_eq_true _ _).mp ran
  exact ⟨by decide +kernel,two_courses_deliverable,s,RunsWhen.nil.guarded (fun _ _ _ => trivial) ran,of_decide_eq_true stuck⟩

end Runs

end OrderPlaced
