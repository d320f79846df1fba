import CommerceCoordinator.Answers
import CommerceCoordinator.Execution
import CommerceCoordinator.SinglePurchase

open Commercetools CallTree MobileStore MobileCreateOrder SegmentEvents

-- What a request of MobileCreateOrderView leaves behind when some of its calls
-- fail: its answer, the carts it asks to delete, and its own cart.
namespace MobileCleanUp

section History
variable {ι : Type}

abbrev History (ι : Type) := List (Exchange (Request ι) Response)

def asksDelete : Exchange (Request ι) Response → Option String
  | ⟨.deleteCartById id _,_⟩ => some id
  | _ => none

def deletes : Exchange (Request ι) Response → Option String
  | ⟨.deleteCartById id _,.ok _⟩ => some id
  | _ => none

def failsDelete : Exchange (Request ι) Response → Option ErrorCode
  | ⟨.deleteCartById _ _,.error code⟩ => some code
  | _ => none

def creates : Exchange (Request ι) Response → Option Cart
  | ⟨.createCart _,.ok cart⟩ => some cart
  | _ => none

-- The look-ups of an existing payment, the last calls before a purchase is accepted.
def looksUp : Exchange (Request ι) Response → Bool
  | ⟨.queryPayments _,_⟩ => true
  | ⟨.queryCarts _,_⟩ => true
  | _ => false

def moves : Exchange (Request ι) Response → Option MobileStore.Order
  | ⟨.updateOrderById _ _ _,.ok order⟩ => some order
  | _ => none

def orders : Exchange (Request ι) Response → Bool
  | ⟨.createOrder _ _ _,.ok _⟩ => true
  | _ => false

def deleted (t : History ι) : List String := t.filterMap deletes
def carts (t : History ι) : List Cart := t.filterMap creates
def created (t : History ι) : List String := (carts t).map (·.id)
def ordered (t : History ι) : Bool := t.any orders
def lastDeleteFailed (t : History ι) : Option ErrorCode := t.head?.bind failsDelete
def lastLooksUp (t : History ι) : Bool := t.head?.any looksUp
def lastMoved (t : History ι) : Option MobileStore.Order := t.head?.bind moves

def DeletesOnce : History ι → Prop
  | [] => True
  | x::earlier => (∀ id, asksDelete x = some id → id ∉ deleted earlier) ∧ DeletesOnce earlier

structure CleansUp (out : Except Exn HttpResponse) (s : Store ι) (t : History ι) : Prop where
  responds : ∃ response, out = .ok response
  once : DeletesOnce t
  leavesNone : ordered t = false → lastDeleteFailed t = none → ∀ c ∈ s.carts, c.id ∉ created t

-- The events can be put together: the new cart is told of as soon as its purchase is
-- looked up and accepted, the order as soon as it has been moved on.
structure Reported (t : History ι) : Prop where
  checkout : lastLooksUp t = true → ∀ cart ∈ carts t, Reportable cart
  completed : ∀ order, lastMoved t = some order → order.discountCodes = []

-- The delete call of the clean-up is not one that fails; after the old cart is
-- deleted, an order number and a new cart are got; and no event stops the request.
structure GetsThrough (t : History ι) : Prop where
  deletes : lastDeleteFailed t ≠ some .unavailable
  replaces : deleted t.tail ≠ [] → created t ≠ []
  reported : Reported t

structure Valid (currencies : String → Option Nat) (outside : Outside) (user : User) (request : MobileOrderRequest)
    (s : Store ι) : Prop where
  identified : ∃ id, user.lmsUserId = some (id+1) ∧ (s.customers.filter (·.lmsUserId = toString (id+1))).length ≤ 1
  currency : (currencies request.data.currencyCode).isSome
  priced : outside.standalonePrices request.data.courseRunKey ≠ []
  usedCarts : ∀ c ∈ s.carts, c.id ∈ s.usedIds
  cartIds : ∀ c ∈ s.carts, ∀ d ∈ s.carts, c.id = d.id → c = d

-- Any call may fail that raises CommercetoolsError then; the prices are read over
-- another API.
def mayFail (choice : Choice) (_ : Store ι × History ι) : Request ι → Bool
  | .getStandalonePrices _ => choice.answers
  | _ => true

end History

section Standing
variable {ι : Type} {s s' : Store ι} {t : History ι}

structure Sound (s : Store ι) (t : History ι) : Prop where
  usedCarts : ∀ c ∈ s.carts, c.id ∈ s.usedIds
  cartIds : ∀ c ∈ s.carts, ∀ d ∈ s.carts, c.id = d.id → c = d
  usedDeleted : deleted t ⊆ s.usedIds
  once : DeletesOnce t

-- The cart in the variable is the stored one, and the only one this request may
-- have created.
structure Holds (cart : Cart) (s : Store ι) (t : History ι) : Prop where
  present : cart ∈ s.carts
  kept : cart.id ∉ deleted t
  replaced : deleted t ≠ [] → created t ≠ []
  only : created t ⊆ [cart.id]
  unordered : ordered t = false

inductive Situation (s : Store ι) (t : History ι) : Option Cart → Option MobileStore.Order → Prop where
  | cartless : deleted t = [] → created t = [] → lastDeleteFailed t = none → ordered t = false → lastMoved t = none →
      Situation s t none none
  | held : Holds cart s t → Situation s t (some cart) none
  | gone : cart.id ∈ deleted t → created t = [] → ordered t = false → Situation s t (some cart) none
  | ordered : (deleted t ≠ [] → created t ≠ []) → ordered t = true → lastDeleteFailed t = none → lastMoved t = none →
      (∀ cart ∈ carts t, Reportable cart) → Situation s t cart (some order)

structure Standing (cart : Option Cart) (order : Option MobileStore.Order) (s : Store ι) (t : History ι) : Prop where
  sound : Sound s t
  situation : Situation s t cart order

def Inert (x : Exchange (Request ι) Response) : Prop :=
  asksDelete x = none ∧ deletes x = none ∧ failsDelete x = none ∧ creates x = none ∧ orders x = false

def Plain (x : Exchange (Request ι) Response) : Prop := Inert x ∧ moves x = none

def quiet : Request ι → Bool
  | .deleteCartById _ _ => false
  | .createCart _ => false
  | .updateCartById _ _ _ => false
  | .createOrder _ _ _ => false
  | .updateOrderById _ _ _ => false
  | _ => true

theorem quiet_history {r : Request ι} (unrelated : quiet r = true) (x : Response r) : Plain ⟨r,x⟩ := by
  cases r with
  | deleteCartById id version => cases unrelated
  | createCart draft => cases unrelated
  | createOrder cartId version orderNumber => cases unrelated
  | updateOrderById orderId version actions => cases unrelated
  | _ => exact ⟨⟨rfl,rfl,rfl,rfl,rfl⟩,rfl⟩

theorem quiet_store {outside : Outside} {choice : Choice} {r : Request ι} (unrelated : quiet r = true) (s : Store ι) :
    (serve outside choice r s).2.carts = s.carts ∧ s.usedIds ⊆ (serve outside choice r s).2.usedIds := by
  cases r with
  | deleteCartById id version => cases unrelated
  | createCart draft => cases unrelated
  | updateCartById id version actions => cases unrelated
  | createOrder cartId version orderNumber => cases unrelated
  | updateCustomerById id version actions =>
    rcases update_customer_cases outside choice version s id actions with ⟨code,served⟩ | ⟨customer,updated,_,_,served⟩ <;>
      rw [served] <;> exact ⟨rfl,List.Subset.refl _⟩
  | createCustomer draft =>
    rcases create_customer_cases outside choice s draft with ⟨code,served⟩ | ⟨_,served⟩
    · rw [served]
      exact ⟨rfl,List.Subset.refl _⟩
    · rw [served]
      exact ⟨rfl,List.subset_cons_self _ _⟩
  | createPayment draft =>
    rcases create_payment_cases outside choice s draft with ⟨code,served⟩ | ⟨_,served⟩
    · rw [served]
      exact ⟨rfl,List.Subset.refl _⟩
    · rw [served]
      exact ⟨rfl,List.subset_cons_self _ _⟩
  | updateOrderById orderId version actions => cases unrelated
  | _ => exact ⟨rfl,List.Subset.refl _⟩

section Inert
variable {x : Exchange (Request ι) Response}

theorem Inert.deleted (inert : Inert x) (t : History ι) : deleted (x::t) = deleted t := by
  simp [MobileCleanUp.deleted,inert.2.1]

theorem Inert.carts (inert : Inert x) (t : History ι) : carts (x::t) = carts t := by
  simp [MobileCleanUp.carts,inert.2.2.2.1]

theorem Inert.created (inert : Inert x) (t : History ι) : created (x::t) = created t :=
  congrArg (List.map Cart.id) (inert.carts t)

theorem Inert.ordered (inert : Inert x) (t : History ι) : ordered (x::t) = ordered t := by
  simp [MobileCleanUp.ordered,inert.2.2.2.2]

theorem Inert.last (inert : Inert x) (t : History ι) : lastDeleteFailed (x::t) = none := by
  simp [lastDeleteFailed,inert.2.2.1]

theorem Inert.once (inert : Inert x) (once : DeletesOnce t) : DeletesOnce (x::t) :=
  ⟨fun id asked => (by cases inert.1.symm.trans asked),once⟩

theorem Inert.sound (inert : Inert x) (sound : Sound s t) (carts : s'.carts = s.carts) (used : s.usedIds ⊆ s'.usedIds) :
    Sound s' (x::t) := by
  refine ⟨?_,?_,?_,inert.once sound.once⟩
  · rw [carts]
    exact fun c member => used (sound.usedCarts c member)
  · rw [carts]
    exact sound.cartIds
  · rw [inert.deleted]
    exact List.Subset.trans sound.usedDeleted used

theorem Inert.holds (inert : Inert x) (holds : Holds cart s t) (present : cart ∈ s'.carts) : Holds cart s' (x::t) := by
  refine ⟨present,?_,?_,?_,?_⟩
  · rw [inert.deleted]
    exact holds.kept
  · rw [inert.deleted,inert.created]
    exact holds.replaced
  · rw [inert.created]
    exact holds.only
  · rw [inert.ordered]
    exact holds.unordered

theorem Plain.unmoved (plain : Plain x) (t : History ι) : lastMoved (x::t) = none := by
  simp [lastMoved,plain.2]

theorem Plain.standing (plain : Plain x) (standing : Standing cart? order? s t) (same : s'.carts = s.carts)
    (used : s.usedIds ⊆ s'.usedIds) : Standing cart? order? s' (x::t) := by
  have inert := plain.1
  refine ⟨inert.sound standing.sound same used,?_⟩
  cases standing.situation with
  | cartless none_ nothing last unordered unmoved =>
    exact .cartless ((inert.deleted t).trans none_) ((inert.created t).trans nothing) (inert.last t)
      ((inert.ordered t).trans unordered) (plain.unmoved t)
  | held holds => exact .held (inert.holds holds (same ▸ holds.present))
  | gone removed nothing unordered =>
    exact .gone ((inert.deleted t).symm ▸ removed) ((inert.created t).trans nothing) ((inert.ordered t).trans unordered)
  | ordered replaced made last unmoved told =>
    refine .ordered ?_ ((inert.ordered t).trans made) (inert.last t) (plain.unmoved t) ?_
    · rw [inert.deleted,inert.created]
      exact replaced
    · rw [inert.carts]
      exact told

end Inert

theorem delete_stored (outside : Outside) (choice : Choice) (present : cart ∈ s.carts)
    (unique : ∀ c ∈ s.carts, ∀ d ∈ s.carts, c.id = d.id → c = d) :
    serve outside choice (.deleteCartById cart.id cart.version) s = (.error .unavailable,s) ∨
    serve outside choice (.deleteCartById cart.id cart.version) s =
      (.ok cart,{s with carts := s.carts.filter (·.id ≠ cart.id)}) := by
  have found : s.carts.find? (·.id = cart.id) = some cart := by
    cases found : s.carts.find? (·.id = cart.id) with
    | none => exact absurd present (by simpa using fun member => List.find?_eq_none.mp found cart member)
    | some stored =>
      obtain ⟨member,same⟩ := SinglePurchase.find_cart found
      rw [unique stored member cart present same]
  cases through : choice.answers with
  | false => exact .inl (by simp [serve,through])
  | true => exact .inr (by simp [serve,through,found])

end Standing

section Calls
variable {ι ε α β : Type} {outside : Outside} {s : Store ι} {t : History ι}

abbrev Leaves (outside : Outside) (post : Except ε α → Store ι × History ι → Prop) (p : Prog (Request ι) Response ε α)
    (s : Store ι) (t : History ι) : Prop :=
  p.wp (Prog.recorded (serve outside)) (fun choice s r => mayFail choice s r = true) post (s,t)

def IsCommercetoolsError (e : Exn) : Prop := ∃ code, e = .commercetoolsError code

def Stays (kept : Store ι → History ι → Prop) : Prop :=
  ∀ s s' t x, kept s t → Plain x → s'.carts = s.carts → s.usedIds ⊆ s'.usedIds → kept s' (x::t)

theorem standing_stays (cart : Option Cart) (order : Option MobileStore.Order) :
    Stays (Standing (ι := ι) cart order) :=
  fun _ _ _ _ standing plain => plain.standing standing

def Own (cart : Cart) (s : Store ι) (t : History ι) : Prop := Sound s t ∧ Holds cart s t

theorem Own.standing (own : Own cart s t) : Standing (some cart) none s t := ⟨own.1,.held own.2⟩

theorem own_stays (cart : Cart) : Stays (Own (ι := ι) cart) :=
  fun _ _ _ _ own plain same used => ⟨plain.1.sound own.1 same used,plain.1.holds own.2 (same ▸ own.2.present)⟩

theorem quiet_leaves {kept : Store ι → History ι → Prop} {raised : ε → Prop} {p : Prog (Request ι) Response ε α}
    (within : p.Within (quiet · = true) raised) (stays : Stays kept) (start : kept s t) :
    Leaves outside (fun out now => kept now.1 now.2 ∧ ∀ e, out = .error e → raised e) p s t := by
  have along : Leaves outside (fun out now => (kept s t → kept now.1 now.2) ∧ ∀ e, out = .error e → raised e) p s t := by
    refine Prog.wp_within (fun a b => kept a.1 a.2 → kept b.1 b.2) (fun _ holds => holds) ?_ ?_ within (s,t)
    · intro a b c first second holds
      exact second (first holds)
    intro choice r now unrelated holds
    obtain ⟨carts,used⟩ := quiet_store unrelated now.1
    exact stays _ _ _ _ holds (quiet_history unrelated _) carts used
  exact Prog.wp_mono along fun out now ends => ⟨ends.1 start,ends.2⟩

theorem commercetools_error (code : ErrorCode) : IsCommercetoolsError (.commercetoolsError code) := ⟨code,rfl⟩

abbrev QuietCall (p : Call ι α) : Prop := p.Within (quiet · = true) IsCommercetoolsError

theorem ask_within (r : Request ι) (unrelated : quiet r = true) (answer : Response r → Except ErrorCode α) :
    QuietCall (conditionalRetry (.expect .commercetoolsError (.call r fun x => .pure (answer x)))) := by
  have once : QuietCall (Prog.expect .commercetoolsError (.call r fun x => .pure (answer x)) : Call ι α) :=
    Prog.Within.ask unrelated commercetools_error
  exact once.retry _ _

theorem update_customer_within (customer : Customer) (updates : List CustomerUpdateAction) :
    QuietCall (updateCustomer customer updates : Call ι Customer) :=
  ask_within (.updateCustomerById customer.id customer.version updates) rfl fun x => x

theorem create_customer_within (email firstName lastName lmsUserId lmsUserName : String) :
    QuietCall (createCustomer email firstName lastName lmsUserId lmsUserName : Call ι Customer) :=
  ask_within (.createCustomer ⟨email,firstName,lastName,true,lmsUserId,lmsUserName⟩) rfl fun x => x

theorem create_payment_within (draft : PaymentDraft) :
    QuietCall (createPayment draft : Call ι MobileStore.Payment) := ask_within (.createPayment draft) rfl fun x => x

theorem order_number_within (caller : ι) :
    QuietCall (getNewOrderNumber caller : Call ι String) := by
  refine Prog.Within.embed (Prog.Within.retry ?_ _ _)
  refine Prog.Within.bind ⟨rfl,fun x => ?_⟩ fun object => Prog.Within.bind ⟨rfl,fun year => ⟨rfl,fun x => ?_⟩⟩ fun _ => ⟨rfl,fun _ => trivial⟩
  · cases x with
    | ok object => trivial
    | error code => exact commercetools_error code
  · cases x with
    | ok object => trivial
    | error code => exact commercetools_error code

theorem query_within (interactionId : String) :
    (getPaymentByTransactionInteractionId interactionId : IapCall ι _).Within (quiet · = true) fun _ => True := by
  refine Prog.Within.bind ⟨rfl,fun x => ?_⟩ fun _ => trivial
  cases x with
  | ok results => trivial
  | error code => trivial

theorem check_existing_within (transactionId : String) :
    (checkExistingPayment transactionId : IapCall ι _).Within (quiet · = true) fun _ => True := by
  refine Prog.Within.bind (query_within transactionId) fun payment => ?_
  cases payment with
  | none => trivial
  | some payment =>
    refine Prog.Within.bind ⟨rfl,fun x => ?_⟩ fun dangling => ?_
    · cases x <;> trivial
    · cases dangling with
      | true => trivial
      | false => trivial

theorem validate_iap_within (paymentProcessor purchaseToken cartId : String) (price : Int) :
    (validateIap paymentProcessor purchaseToken cartId price : IapCall ι _).Within (quiet · = true) fun _ => True := by
  have validated : ∀ {γ : Type} (r : Request ι) (answer : Response r → Except String γ), quiet r = true →
      (retryValidation (.call r fun x => .pure (answer x)) : IapCall ι γ).Within (quiet · = true) fun _ => True := by
    intro γ r answer unrelated
    have once : (Prog.expect .validationError (.call r fun x => .pure (answer x)) : IapCall ι γ).Within
        (quiet · = true) fun _ => True := Prog.Within.ask unrelated fun _ => trivial
    exact once.retry _ _
  unfold validateIap
  split
  · refine Prog.Within.bind (validated (.validateGooglePlay _ _) (fun x => x) rfl) fun purchase => ?_
    unfold handleAndroidValidation
    dsimp only
    split
    · trivial
    · split
      · trivial
      · split
        · trivial
        · refine Prog.Within.bind (check_existing_within _) fun payment => ?_
          split
          · trivial
          · trivial
  · split
    · refine Prog.Within.bind (validated (.validateAppStore _) (fun x => x) rfl) fun receipt => ?_
      unfold handleIosValidation
      split
      · trivial
      · split
        · trivial
        · dsimp only
          split
          · trivial
          · refine Prog.Within.bind (check_existing_within _) fun payment => ?_
            split
            · trivial
            · trivial
    · trivial

-- Whatever goes wrong with the payment is caught and becomes a status code.
theorem payment_info_within (paymentProcessor purchaseToken cartId : String) (price : Int) :
    QuietCall (getPaymentInfoFromPurchaseToken paymentProcessor purchaseToken cartId price : Call ι PaymentInfo) := by
  unfold getPaymentInfoFromPurchaseToken
  split
  · trivial
  · refine Prog.Within.bind
      (Prog.Within.attempt (validate_iap_within _ _ _ _)) fun answer => ?_
    cases answer <;> trivial

def LooksUp (out : Except ε α) (now : Store ι × History ι) : Prop := ∀ a, out = .ok a → lastLooksUp now.2 = true

theorem check_existing_looks_up (transactionId : String) :
    Leaves outside LooksUp (checkExistingPayment transactionId : IapCall ι _) s t := by
  refine Prog.wp_seq (fun _ now => lastLooksUp now.2 = true) ?_ (fun _ _ _ => nofun) ?_
  · intro choice _
    cases answered : (serve outside choice (.queryPayments transactionId) s).1 <;>
      simp only [Prog.recorded,answered] <;> exact rfl
  · intro payment now looked
    cases payment with
    | none => exact fun _ _ => looked
    | some payment =>
      intro choice _
      cases answered : (serve outside choice (.queryCarts payment.id) now.1).1 with
      | error code =>
        simp only [Prog.recorded,answered]
        exact fun _ never => by cases never
      | ok carts =>
        simp only [Prog.recorded,answered]
        cases carts with
        | nil => exact fun _ _ => rfl
        | cons other rest => exact fun _ never => by cases never

theorem validate_iap_looks_up (paymentProcessor purchaseToken cartId : String) (price : Int) :
    Leaves outside LooksUp (validateIap paymentProcessor purchaseToken cartId price : IapCall ι _) s t := by
  have asked : ∀ {γ : Type} (p : IapCall ι γ) (s : Store ι) (t : History ι), Leaves outside (fun _ _ => True) p s t :=
    fun p s t => Prog.wp_along (fun _ _ => True) (fun _ => trivial) (fun _ _ _ _ _ => trivial) (fun _ _ _ => trivial) p (s,t)
  have refused : ∀ (e : IapError) (now : Store ι × History ι), LooksUp (.error e : Except IapError ValidationResponse) now :=
    fun _ _ _ => nofun
  unfold validateIap
  split
  · refine Prog.wp_seq (fun _ _ => True) (asked _ s t) (fun e now _ => refused e now) fun purchase now _ => ?_
    unfold handleAndroidValidation
    dsimp only
    split
    · exact refused _ _
    · split
      · exact refused _ _
      · split
        · exact refused _ _
        · refine Prog.wp_seq LooksUp (check_existing_looks_up _) (fun e now _ => refused e now) fun payment now looked => ?_
          split
          · exact refused _ _
          · exact fun _ _ => looked _ rfl
  · split
    · refine Prog.wp_seq (fun _ _ => True) (asked _ s t) (fun e now _ => refused e now) fun receipt now _ => ?_
      unfold handleIosValidation
      split
      · exact refused _ _
      · split
        · exact refused _ _
        · dsimp only
          split
          · exact refused _ _
          · refine Prog.wp_seq LooksUp (check_existing_looks_up _) (fun e now _ => refused e now) fun payment now looked => ?_
            split
            · exact refused _ _
            · exact fun _ _ => looked _ rfl
    · exact refused _ _

theorem payment_info_looks_up (paymentProcessor purchaseToken cartId : String) (price : Int) :
    Leaves outside (fun out now => ∀ response, out = .ok (.accepted response) → lastLooksUp now.2 = true)
      (getPaymentInfoFromPurchaseToken paymentProcessor purchaseToken cartId price : Call ι PaymentInfo) s t := by
  unfold getPaymentInfoFromPurchaseToken
  split
  · exact fun _ => nofun
  · refine Prog.wp_seq (fun out now => ∀ answer, out = .ok answer → LooksUp answer now) ?_ (fun _ _ _ => nofun) ?_
    · refine Prog.wp_attempt.mpr (Prog.wp_mono (validate_iap_looks_up _ _ _ _) fun out now looked => ?_)
      intro answer same
      cases same
      exact looked
    · intro answer now looked
      cases answer with
      | ok response => exact fun _ _ => looked _ rfl response rfl
      | error e => cases e <;> exact fun _ => nofun

theorem payment_within (given : Option MobileStore.Payment) (draft : PaymentDraft) :
    QuietCall (givenOrNewPayment given draft : Call ι MobileStore.Payment) := by
  cases given with
  | some payment => trivial
  | none => exact create_payment_within draft

theorem leaves_bind {post : Except ε β → Store ι × History ι → Prop} (first : Except ε α → Store ι × History ι → Prop)
    {p : Prog (Request ι) Response ε α} {f : α → Prog (Request ι) Response ε β} (holds : Leaves outside first p s t)
    (failed : ∀ e now, first (.error e) now → post (.error e) now)
    (done : ∀ a s t, first (.ok a) (s,t) → Leaves outside post (f a) s t) : Leaves outside post (p.bind f) s t :=
  Prog.wp_seq first holds failed fun a now ends => done a now.1 now.2 ends

theorem get_customer_leaves {id : Nat} (single : (s.customers.filter (·.lmsUserId = toString (id+1))).length ≤ 1)
    (standing : Standing none none s t) :
    Leaves outside (fun out now => Standing none none now.1 now.2 ∧ ∀ e, out = .error e → IsCommercetoolsError e)
      (getCustomerByLmsUserId (some (id+1)) : Call ι _) s t := by
  refine Prog.wp_retry (fun now => Standing none none now.1 now.2 ∧ now.1.customers = s.customers) _ 2 ⟨standing,rfl⟩ ?_
  intro now ready choice _
  obtain ⟨standing,same⟩ := ready
  have answered : ∀ x, Standing none none now.1 (⟨.queryCustomers (toString (id+1)),x⟩::now.2) := fun x =>
    Plain.standing (quiet_history rfl x) standing rfl (List.Subset.refl _)
  have few : ((now.1.customers.filter (·.lmsUserId = toString (id+1))).take 2).length ≤ 1 := by
    rw [same]
    exact Nat.le_trans (List.length_take_le' 2 _) single
  cases through : choice.answers with
  | false =>
    have served : serve outside choice (.queryCustomers (toString (id+1))) now.1 = (.error .unavailable,now.1) := by
      simp [serve,through]
    simp only [Prog.recorded,served]
    exact ⟨⟨answered _,fun e same => by cases same; exact ⟨_,rfl⟩⟩,answered _,same⟩
  | true =>
    obtain ⟨listed,few,served⟩ : ∃ listed : List Customer, listed.length ≤ 1 ∧
        serve outside choice (.queryCustomers (toString (id+1))) now.1 = (.ok listed,now.1) :=
      ⟨_,few,by simp [serve,through]⟩
    simp only [Prog.recorded,served]
    rcases listed with _ | ⟨customer,_ | ⟨_,_⟩⟩
    · exact ⟨answered _,fun e never => by cases never⟩
    · exact ⟨answered _,fun e never => by cases never⟩
    · simp at few

def Ends (good : α → Store ι → History ι → Prop) (bad : Store ι → History ι → Prop) :
    Except Exn α → Store ι × History ι → Prop
  | .ok a,now => good a now.1 now.2
  | .error e,now => IsCommercetoolsError e ∧ bad now.1 now.2

theorem quiet_ends {kept : Store ι → History ι → Prop} {p : Call ι α} (within : QuietCall p) (stays : Stays kept)
    (start : kept s t) : Leaves outside (Ends (fun _ => kept) kept) p s t :=
  Prog.wp_mono (quiet_leaves within stays start) fun out now ends => by
    cases out with
    | ok a => exact ends.1
    | error e => exact ⟨ends.2 e rfl,ends.1⟩

theorem get_ct_customer_leaves {user : User} {id : Nat} (identified : user.lmsUserId = some (id+1))
    (single : (s.customers.filter (·.lmsUserId = toString (id+1))).length ≤ 1) (standing : Standing none none s t) :
    Leaves outside (Ends (fun _ => Standing none none) (Standing none none)) (getCtCustomer user : Call ι _) s t := by
  unfold getCtCustomer
  rw [identified]
  refine leaves_bind _ (get_customer_leaves single standing) (fun e now ends => ⟨ends.2 e rfl,ends.1⟩) ?_
  intro customer s t ends
  refine quiet_ends ?_ (standing_stays none none) ends.1
  cases customer with
  | none => exact create_customer_within _ _ _ _ _
  | some customer =>
    dsimp only
    split
    · exact update_customer_within _ _
    · trivial

theorem found_cart {choice : Choice} {customerId : String}
    (found : (serve outside choice (.getCartByCustomerId customerId) s).1 = .ok cart) : cart ∈ s.carts := by
  rcases get_cart_cases outside choice s customerId with ⟨code,served⟩ | ⟨stored,latest,served⟩
  · rw [served] at found
    cases found
  · rw [served] at found
    cases found
    exact (List.mem_filter.mp (List.mem_of_getLast? latest)).1

def Looked : Option Cart → Store ι → History ι → Prop
  | none,s,t => Standing none none s t
  | some cart,s,t => Own cart s t ∧ created t = []

theorem Standing.finds (standing : Standing none none s t) (present : cart ∈ s.carts) : Looked (some cart) s t := by
  cases standing.situation with
  | cartless none_ nothing last unordered unmoved =>
    refine ⟨⟨standing.sound,present,?_,fun some_ => absurd none_ some_,?_,unordered⟩,nothing⟩
    · simp [none_]
    · simp [nothing]

theorem get_customer_cart_leaves (customerId : String) (standing : Standing none none s t) :
    Leaves outside (Ends Looked (Standing none none)) (getCustomerCart customerId : Call ι _) s t := by
  refine Prog.wp_retry (fun now => Standing none none now.1 now.2) _ 2 standing ?_
  intro now standing choice _
  have answered : ∀ x, Standing none none now.1 (⟨.getCartByCustomerId customerId,x⟩::now.2) := fun x =>
    Plain.standing (quiet_history rfl x) standing rfl (List.Subset.refl _)
  have served : (serve outside choice (.getCartByCustomerId customerId) now.1).2 = now.1 := rfl
  simp only [Prog.recorded,served]
  cases found : (serve outside choice (.getCartByCustomerId customerId) now.1).1 with
  | error code =>
    cases code with
    | resourceNotFound => exact answered _
    | _ => exact ⟨⟨commercetools_error _,answered _⟩,answered _⟩
  | ok cart => exact (answered _).finds (found_cart found)

structure Removed (cart : Cart) (made : List String) (s : Store ι) (t : History ι) : Prop where
  sound : Sound s t
  absent : ∀ c ∈ s.carts, c.id ≠ cart.id
  removed : cart.id ∈ deleted t
  same : created t = made
  only : made ⊆ [cart.id]
  unordered : ordered t = false
  last : lastDeleteFailed t = none
  replaced : deleted t.tail ≠ [] → made ≠ []
  reported : Reported t

theorem Own.delete_failed (own : Own cart s t) (code : ErrorCode) :
    Own cart s (⟨.deleteCartById cart.id cart.version,.error code⟩::t) := by
  obtain ⟨sound,holds⟩ := own
  exact ⟨⟨sound.usedCarts,sound.cartIds,sound.usedDeleted,fun id same => by cases same; exact holds.kept,sound.once⟩,
    ⟨holds.present,holds.kept,holds.replaced,holds.only,holds.unordered⟩⟩

theorem Own.delete_done (own : Own cart s t) :
    Removed cart (created t) {s with carts := s.carts.filter (·.id ≠ cart.id)}
      (⟨.deleteCartById cart.id cart.version,.ok cart⟩::t) := by
  obtain ⟨sound,holds⟩ := own
  refine ⟨⟨?_,?_,?_,?_,sound.once⟩,?_,List.mem_cons_self,rfl,holds.only,holds.unordered,rfl,holds.replaced,nofun,nofun⟩
  · exact fun c member => sound.usedCarts c (List.mem_filter.mp member).1
  · exact fun c member d other => sound.cartIds c (List.mem_filter.mp member).1 d (List.mem_filter.mp other).1
  · exact List.cons_subset.mpr ⟨sound.usedCarts cart holds.present,sound.usedDeleted⟩
  · intro id same
    cases same
    exact holds.kept
  · exact fun c member => by simpa using (List.mem_filter.mp member).2

theorem delete_cart_leaves (own : Own cart s t) :
    Leaves outside (Ends (fun _ => Removed cart (created t)) fun s' t' =>
      Own cart s' t' ∧ lastDeleteFailed t' = some .unavailable) (deleteCart cart : Call ι _) s t := by
  refine Prog.wp_retry (fun now => Own cart now.1 now.2 ∧ created now.2 = created t) _ 2 ⟨own,rfl⟩ ?_
  intro now ready choice _
  obtain ⟨own,same⟩ := ready
  rcases delete_stored outside choice own.2.present own.1.cartIds with served | served
  · simp only [Prog.recorded,served]
    exact ⟨⟨commercetools_error _,own.delete_failed _,rfl⟩,own.delete_failed _,same⟩
  · simp only [Prog.recorded,served]
    exact same ▸ own.delete_done

def Unstarted (cart : Option Cart) (s : Store ι) (t : History ι) : Prop := Standing cart none s t ∧ created t = []

theorem unstarted_stays (cart : Option Cart) : Stays (Unstarted (ι := ι) cart) :=
  fun _ _ t _ unstarted plain carts used =>
    ⟨plain.standing unstarted.1 carts used,(plain.1.created t).trans unstarted.2⟩

theorem Unstarted.unordered (unstarted : Unstarted cart? s t) : ordered t = false := by
  cases unstarted.1.situation with
  | cartless none_ nothing last unordered unmoved => exact unordered
  | held holds => exact holds.unordered
  | gone removed nothing unordered => exact unordered

theorem delete_existing_leaves (looked : Looked cart? s t) :
    Leaves outside (Ends (fun _ => Unstarted cart?) (Standing cart? none)) (deleteExistingCart cart? : Call ι _) s t := by
  cases cart? with
  | none =>
    cases looked.situation with
    | cartless none_ nothing last unordered unmoved => exact ⟨looked,nothing⟩
  | some cart =>
    obtain ⟨own,nothing⟩ := looked
    refine Prog.wp_mono (delete_cart_leaves own) fun out now ends => ?_
    cases out with
    | ok done => exact ⟨⟨ends.sound,.gone ends.removed (ends.same.trans nothing) ends.unordered⟩,ends.same.trans nothing⟩
    | error e => exact ⟨ends.1,ends.2.1.standing⟩

def Started (cart : Cart) : Prop := ∃ item rest state states, cart.lineItems = item::rest ∧ item.state = state::states

theorem Unstarted.creates {choice : Choice} {draft : CartDraft} (unstarted : Unstarted cart? s t)
    (fresh : choice.id ∉ s.usedIds) :
    Own (cartOf outside choice.id draft) {s with
      carts := s.carts++[cartOf outside choice.id draft], usedIds := choice.id::s.usedIds}
      (⟨.createCart draft,.ok (cartOf outside choice.id draft)⟩::t) := by
  have unordered := unstarted.unordered
  obtain ⟨⟨sound,_⟩,nothing⟩ := unstarted
  have apart : ∀ c ∈ s.carts, c.id ≠ choice.id := fun c member same => fresh (same ▸ sound.usedCarts c member)
  refine ⟨⟨?_,?_,?_,?_⟩,⟨List.mem_append_right _ List.mem_cons_self,?_,?_,?_,unordered⟩⟩
  · intro c member
    rcases List.mem_append.mp member with earlier | created
    · exact List.mem_cons_of_mem _ (sound.usedCarts c earlier)
    · rw [List.mem_singleton.mp created]
      exact List.mem_cons_self
  · intro c member d other same
    rcases List.mem_append.mp member with earlier | created <;> rcases List.mem_append.mp other with earlier' | created'
    · exact sound.cartIds c earlier d earlier' same
    · rw [List.mem_singleton.mp created'] at same
      exact absurd same (apart c earlier)
    · rw [List.mem_singleton.mp created] at same
      exact absurd same.symm (apart d earlier')
    · rw [List.mem_singleton.mp created,List.mem_singleton.mp created']
  · exact fun id member => List.mem_cons_of_mem _ (sound.usedDeleted member)
  · exact ⟨fun id never => (by cases never),sound.once⟩
  · exact fun member => fresh (sound.usedDeleted member)
  · exact fun _ => List.cons_ne_nil _ _
  · have listed : created (⟨.createCart draft,.ok (cartOf outside choice.id draft)⟩::t) = choice.id::created t := rfl
    rw [listed,nothing]
    exact List.Subset.refl _

theorem create_cart_leaves (courseRunKey : String) (customer : Customer) (emailDomain : String)
    (externalPrice : CentPrecisionMoney) (orderNumber : String) (unstarted : Unstarted cart? s t) :
    Leaves outside (Ends (fun cart s' t' => (Own cart s' t' ∧ carts t' = [cart]) ∧ Started cart) (Unstarted cart?))
      (createCart courseRunKey customer emailDomain externalPrice orderNumber : Call ι _) s t := by
  refine Prog.wp_retry (fun now => Unstarted cart? now.1 now.2) _ 2 unstarted ?_
  intro now unstarted choice _
  simp only [Prog.recorded,serve]
  split
  · rename_i accepted
    have none_ : carts now.2 = [] := List.map_eq_nil_iff.mp unstarted.2
    refine ⟨⟨unstarted.creates accepted.2,?_⟩,_,_,_,_,rfl,rfl⟩
    exact congrArg (List.cons _) none_
  · have failed : ∀ draft, Unstarted cart? now.1 (⟨.createCart draft,.error .unavailable⟩::now.2) := fun draft =>
      unstarted_stays cart? _ _ _ _ unstarted ⟨⟨rfl,rfl,rfl,rfl,rfl⟩,rfl⟩ rfl (List.Subset.refl _)
    exact ⟨⟨commercetools_error _,failed _⟩,failed _⟩

def goods (cart : Cart) : List CartItem × List String × Option DiscountOnTotalPrice :=
  (cart.lineItems,cart.discountCodes,cart.discountOnTotalPrice)

theorem actions_goods (actions : List CartUpdateAction) (cart : Cart) :
    goods (actions.foldl applyCartAction cart) = goods cart := by
  induction actions generalizing cart with
  | nil => rfl
  | cons action rest ih => exact (ih _).trans (by cases action <;> rfl)

theorem update_cart_same {actions : List CartUpdateAction} (accepted : updateCart s version actions cart = some updated) :
    updated.id = cart.id ∧ goods updated = goods cart := by
  obtain ⟨_,changed⟩ := Versioned.compareAndSet_some.mp accepted
  obtain ⟨_,applied⟩ := Option.ite_none_right_eq_some.mp changed
  cases applied
  exact ⟨(SinglePurchase.actions_payments actions cart).1,actions_goods actions cart⟩

structure Ready (cart : Cart) : Prop where
  started : Started cart
  reportable : Reportable cart

theorem Ready.kept {updated : Cart} (ready : Ready cart) (same : goods updated = goods cart) : Ready updated := by
  obtain ⟨lineItems,rest⟩ := Prod.mk.injEq _ _ _ _ ▸ same
  obtain ⟨codes,discount⟩ := Prod.mk.injEq _ _ _ _ ▸ rest
  refine ⟨?_,?_,?_,?_⟩
  · unfold Started
    rw [lineItems]
    exact ready.started
  · rw [codes]
    exact ready.reportable.codes
  · rw [discount]
    exact ready.reportable.discount
  · rw [lineItems]
    exact ready.reportable.lineItems

def Told (cart : Cart) (s : Store ι) (t : History ι) : Prop := Own cart s t ∧ ∀ made ∈ carts t, Reportable made

theorem told_stays (cart : Cart) : Stays (Told (ι := ι) cart) := by
  intro s s' t x told plain same used
  exact ⟨own_stays cart s s' t x told.1 plain same used,plain.1.carts t ▸ told.2⟩

theorem Own.stored {stored : Cart} (own : Own cart s t) (found : s.carts.find? (·.id = cart.id) = some stored) : stored = cart := by
  obtain ⟨member,same⟩ := SinglePurchase.find_cart found
  exact own.1.cartIds stored member cart own.2.present same

theorem Sound.replaced (sound : Sound s t) (present : cart ∈ s.carts) (updated : Cart) (same : updated.id = cart.id) :
    (∀ c ∈ replaceCart updated s.carts, c.id ∈ s.usedIds) ∧
      ∀ c ∈ replaceCart updated s.carts, ∀ d ∈ replaceCart updated s.carts, c.id = d.id → c = d := by
  refine ⟨?_,SinglePurchase.replaced_ids sound.cartIds⟩
  intro c member
  rcases SinglePurchase.mem_replace.mp member with ⟨earlier,_⟩ | rfl
  · exact sound.usedCarts c earlier
  · exact same ▸ sound.usedCarts cart present

theorem add_payment_leaves (paymentId : String) (address : Option String) (told : Told cart s t) (ready : Ready cart) :
    Leaves outside (Ends (fun cart s' t' => Told cart s' t' ∧ Ready cart) (Told cart))
      (addPaymentAndAddressToCart cart paymentId address : Call ι _) s t := by
  refine Prog.wp_retry (fun now => Told cart now.1 now.2) _ 2 told ?_
  intro now told choice _
  have own := told.1
  rcases update_cart_cases outside choice cart.id cart.version now.1 (cartActions paymentId address) with
    ⟨code,served⟩ | ⟨stored,updated,found,accepted,served⟩
  · simp only [Prog.recorded,served]
    have failed : Told cart now.1 (⟨.updateCartById cart.id cart.version (cartActions paymentId address),.error code⟩::now.2) :=
      told_stays cart _ _ _ _ told ⟨⟨rfl,rfl,rfl,rfl,rfl⟩,rfl⟩ rfl (List.Subset.refl _)
    exact ⟨⟨commercetools_error _,failed⟩,failed⟩
  · simp only [Prog.recorded,served]
    cases own.stored found
    obtain ⟨id,same⟩ := update_cart_same accepted
    obtain ⟨usedCarts,cartIds⟩ := own.1.replaced own.2.present updated id
    have inert : Inert (ι := ι) ⟨.updateCartById cart.id cart.version (cartActions paymentId address),.ok updated⟩ :=
      ⟨rfl,rfl,rfl,rfl,rfl⟩
    have holds := inert.holds own.2 own.2.present
    refine ⟨⟨⟨⟨usedCarts,cartIds,own.1.usedDeleted,inert.once own.1.once⟩,?_⟩,told.2⟩,ready.kept same⟩
    exact ⟨SinglePurchase.mem_replace.mpr (.inr rfl),id ▸ holds.kept,holds.replaced,id ▸ holds.only,holds.unordered⟩

theorem create_order_leaves (told : Told cart s t) :
    Leaves outside (Ends (fun order s' t' => Standing (some cart) (some order) s' t' ∧
        order.lineItems = cart.lineItems.map (·.toLineItem)) (Told cart)) (createOrderFromCart cart : Call ι _) s t := by
  refine Prog.wp_retry (fun now => Told cart now.1 now.2) _ 2 told ?_
  intro now told choice _
  have own := told.1
  rcases create_order_cases outside choice cart.id cart.version now.1 cart.orderNumber with
    ⟨code,served⟩ | ⟨stored,found,_,_,_,served⟩
  · simp only [Prog.recorded,served]
    have failed : Told cart now.1 (⟨.createOrder cart.id cart.version cart.orderNumber,.error code⟩::now.2) :=
      told_stays cart _ _ _ _ told ⟨⟨rfl,rfl,rfl,rfl,rfl⟩,rfl⟩ rfl (List.Subset.refl _)
    exact ⟨⟨commercetools_error _,failed⟩,failed⟩
  · simp only [Prog.recorded,served]
    cases own.stored found
    obtain ⟨usedCarts,cartIds⟩ := own.1.replaced own.2.present
      {cart with cartState := .ordered, version := cart.version+1} rfl
    refine ⟨⟨⟨fun c member => List.mem_cons_of_mem _ (usedCarts c member),cartIds,
      fun id member => List.mem_cons_of_mem _ (own.1.usedDeleted member),fun id never => (by cases never),own.1.once⟩,?_⟩,rfl⟩
    exact .ordered own.2.replaced rfl rfl rfl told.2

def Moved (cart : Cart) (order updated : MobileStore.Order) (s : Store ι) (t : History ι) : Prop :=
  ∃ orderId version actions earlier, t = ⟨.updateOrderById orderId version actions,.ok updated⟩::earlier ∧
    Standing (some cart) (some order) s earlier

theorem transition_leaves {order : MobileStore.Order} (orderId : String) (orderVersion : Nat) (lineItems : List LineItem)
    (fromStateId newStateKey : String) (standing : Standing (some cart) (some order) s t) :
    Leaves outside (Ends (Moved cart order) (Standing (some cart) (some order)))
      (updateLineItemsTransitionState orderId orderVersion lineItems fromStateId newStateKey : Call ι _) s t := by
  refine Prog.wp_retry (fun now => Standing (some cart) (some order) now.1 now.2) _ 2 standing ?_
  intro now standing choice _
  rcases update_order_cases outside choice orderVersion now.1 orderId
    (lineItems.map fun item => ⟨item.id,item.quantity,fromStateId,newStateKey⟩) with ⟨code,served⟩ | ⟨before,updated,_,served⟩
  · simp only [Prog.recorded,served]
    have failed := standing_stays (some cart) (some order) _ now.1 _ (⟨.updateOrderById orderId orderVersion
      (lineItems.map fun item => ⟨item.id,item.quantity,fromStateId,newStateKey⟩),.error code⟩) standing
      ⟨⟨rfl,rfl,rfl,rfl,rfl⟩,rfl⟩ rfl (List.Subset.refl _)
    exact ⟨⟨commercetools_error _,failed⟩,failed⟩
  · simp only [Prog.recorded,served]
    obtain ⟨sound,situation⟩ := standing
    refine ⟨_,_,_,_,rfl,⟨sound.usedCarts,sound.cartIds,sound.usedDeleted,sound.once⟩,?_⟩
    cases situation with
    | ordered replaced made last unmoved told => exact .ordered replaced made last unmoved told

theorem first_state_leaves (started : Started cart) {order : MobileStore.Order}
    (same : order.lineItems = cart.lineItems.map (·.toLineItem)) :
    ∃ stateId, (firstStateId order : Call ι String) = .pure stateId := by
  obtain ⟨⟨⟨id,quantity,price,_,entitlement⟩,product⟩,rest,state,states,listed,rfl⟩ := started
  refine ⟨state.stateId,?_⟩
  unfold firstStateId
  rw [same,listed]
  rfl

end Calls

section Body
variable {ι α : Type} {outside : Outside} {currencies : String → Option Nat} {user : User} {request : MobileOrderRequest}
  {s : Store ι} {t : History ι}

-- What the body of the try statement hands to its end, or to the handler; an event
-- that cannot be put together passes the handler by.
def Ended : Except Failed HttpResponse → Store ι × History ι → Prop
  | .ok response,now => CleansUp (.ok response) now.1 now.2 ∧ GetsThrough now.2
  | .error failed,now =>
    IsCommercetoolsError failed.error ∧ Standing failed.locals.cart failed.locals.order now.1 now.2 ∨
      ¬IsCommercetoolsError failed.error ∧ ¬GetsThrough now.2

theorem during_leaves {locals : Locals} {good : α → Store ι → History ι → Prop} {bad : Store ι → History ι → Prop}
    {p : Call ι α} {f : α → Body ι HttpResponse} (holds : Leaves outside (Ends good bad) p s t)
    (failed : ∀ s t, bad s t → Standing locals.cart locals.order s t)
    (done : ∀ a s t, good a s t → Leaves outside Ended (f a) s t) :
    Leaves outside Ended ((during locals p).bind f) s t := by
  refine leaves_bind (fun
    | .ok a,now => good a now.1 now.2
    | .error e,now => Ended (.error e) now) ?_ (fun e now ends => ends) fun a s t ends => done a s t ends
  refine Prog.wp_expect.mpr (Prog.wp_attempt.mpr (Prog.wp_mono holds fun out now ends => ?_))
  cases out with
  | ok a => exact ends
  | error e => exact .inl ⟨ends.1,failed _ _ ends.2⟩

theorem told_leaves {locals : Locals} {fit : Prop} {x : Except Exn α} {f : α → Body ι HttpResponse} (tells : Tells fit x)
    (stops : ¬fit → ¬GetsThrough t) (done : fit → ∀ a, Leaves outside Ended (f a) s t) :
    Leaves outside Ended ((during locals (emits x)).bind f) s t := by
  rcases tells with ⟨fit,a,told⟩ | ⟨bare,e,failed,kind⟩
  · rw [told]
    exact done fit a
  · rw [failed]
    refine .inr ⟨fun caught => ?_,stops bare⟩
    obtain ⟨code,same⟩ := caught
    cases same
    rcases kind with never | never <;> cases never

theorem moved_cleans {order updated : MobileStore.Order} (moved : Moved cart order updated s t) (response : HttpResponse) :
    CleansUp (.ok response) s t ∧ (GetsThrough t ↔ updated.discountCodes = []) := by
  obtain ⟨orderId,version,actions,earlier,rfl,sound,situation⟩ := moved
  have inert : Inert (ι := ι) ⟨.updateOrderById orderId version actions,.ok updated⟩ := ⟨rfl,rfl,rfl,rfl,rfl⟩
  cases situation with
  | ordered replaced made last unmoved told =>
    refine ⟨⟨⟨response,rfl⟩,inert.once sound.once,fun unordered => ?_⟩,fun through => through.reported.completed updated rfl,
      fun codes => ⟨by simp [inert.last],?_,fun _ => ?_,?_⟩⟩
    · rw [inert.ordered,made] at unordered
      cases unordered
    · rw [inert.created]
      exact replaced
    · rw [inert.carts]
      exact told
    · intro order same
      cases same
      exact codes

theorem removed_cleans (removed : Removed cart made s t) (response : HttpResponse) : Ended (.ok response) (s,t) := by
  refine ⟨⟨⟨response,rfl⟩,removed.sound.once,fun _ _ c member created => ?_⟩,⟨by simp [removed.last],?_,removed.reported⟩⟩
  · rw [removed.same] at created
    exact removed.absent c member (List.mem_singleton.mp (removed.only created))
  · rw [removed.same]
    exact removed.replaced

theorem complete_order_leaves (forUserMsg : String) (standalonePrice : CentPrecisionMoney) (cart : Cart)
    (payment : MobileStore.Payment) (regionCode : Option String) (told : Told cart s t) (ready : Ready cart) :
    Leaves outside Ended (completeOrder forUserMsg standalonePrice cart payment regionCode : Body ι _) s t := by
  refine during_leaves (add_payment_leaves payment.id _ told ready) (fun s t told => told.1.standing) ?_
  intro cart s t both
  obtain ⟨told,ready⟩ := both
  refine during_leaves (create_order_leaves told) (fun s t told => told.1.standing) ?_
  intro order s t both
  obtain ⟨standing,lineItems⟩ := both
  obtain ⟨stateId,first⟩ := first_state_leaves ready.started lineItems
  have stays := standing_stays (ι := ι) (some cart) (some order)
  refine during_leaves (quiet_ends (by rw [first]; trivial) stays standing) (fun _ _ standing => standing) ?_
  intro fromStateId s t standing
  refine during_leaves (transition_leaves _ _ _ _ _ standing) (fun _ _ standing => standing) ?_
  intro updated s t moved
  refine told_leaves (order_completed_told ready.reportable _ _ _ _ _ _) ?_ ?_
  · exact fun codes => mt (moved_cleans moved (.error "" 0)).2.mp codes
  · exact fun codes _ => ⟨(moved_cleans moved _).1,(moved_cleans moved (.error "" 0)).2.mpr codes⟩

theorem external_price_leaves {kept : Store ι → History ι → Prop} (currency : (currencies request.data.currencyCode).isSome)
    (start : kept s t) : Leaves outside (Ends (fun _ => kept) kept) (externalPriceOf currencies request.data : Call ι _) s t := by
  obtain ⟨digits,known⟩ := Option.isSome_iff_exists.mp currency
  unfold externalPriceOf
  rw [known]
  exact start

theorem standalone_price_leaves {kept : Store ι → History ι → Prop} (sku : String) (priced : outside.standalonePrices sku ≠ [])
    (stays : Stays kept) (start : kept s t) :
    Leaves outside (Ends (fun _ => kept) kept) (getStandalonePriceForSku sku : Call ι _) s t := by
  intro choice read
  have served : serve outside choice (.getStandalonePrices sku) s = (outside.standalonePrices sku,s) := by
    simp only [mayFail] at read
    simp [serve,read]
  simp only [Prog.recorded,served]
  obtain ⟨price,rest,listed⟩ := List.exists_cons_of_ne_nil priced
  rw [listed]
  exact stays _ _ _ _ start (quiet_history rfl _) rfl (List.Subset.refl _)

theorem for_each {items : List α} {f : α → Except Exn Unit} (each : ∀ item ∈ items, f item = .ok ()) :
    items.forM f = .ok () := by
  induction items with
  | nil => rfl
  | cons item rest ih =>
    obtain ⟨first,later⟩ := List.forall_mem_cons.mp each
    change (f item).bind (fun _ => rest.forM f) = .ok ()
    rw [first]
    exact ih later

theorem product_added_events_told {standalonePrice : CentPrecisionMoney} {cart : Cart} (reportable : Reportable cart) :
    emitProductAddedEvents standalonePrice cart = .ok () := by
  have each : ∀ item ∈ cart.lineItems, (do
      let _ ← emitProductAddedEvent cart.id standalonePrice item cart.discountCodes cart.lineItems
      return () : Except Exn Unit) = .ok () := by
    intro item member
    have written : ∃ event, emitProductAddedEvent cart.id standalonePrice item cart.discountCodes cart.lineItems =
        .ok event := product_added_told reportable member
    obtain ⟨event,told⟩ := written
    rw [told]
    rfl
  exact for_each each

theorem payment_info_leaves (paymentProcessor purchaseToken cartId : String) (price : Int) {cart : Cart}
    (own : Own cart s t) (made : carts t = [cart]) :
    Leaves outside (Ends (fun info s' t' => Own cart s' t' ∧ carts t' = [cart] ∧
        ∀ response, info = .accepted response → lastLooksUp t' = true) (Own cart))
      (getPaymentInfoFromPurchaseToken paymentProcessor purchaseToken cartId price : Call ι PaymentInfo) s t := by
  have stays : Stays (ι := ι) fun s t => Own cart s t ∧ carts t = [cart] := by
    intro s s' t x kept plain same used
    exact ⟨own_stays cart s s' t x kept.1 plain same used,(plain.1.carts t).trans kept.2⟩
  have kept : Leaves outside _ _ s t :=
    quiet_ends (payment_info_within paymentProcessor purchaseToken cartId price) stays ⟨own,made⟩
  refine Prog.wp_mono (Prog.wp_and kept (payment_info_looks_up _ _ _ _)) fun out now both => ?_
  obtain ⟨kept,looked⟩ := both
  cases out with
  | ok info => exact ⟨kept.1,kept.2,fun response same => looked response (congrArg Except.ok same)⟩
  | error e => exact ⟨kept.1,kept.2.1⟩

theorem create_order_body (caller : ι) (valid : Valid currencies outside user request s) :
    Leaves outside Ended (createOrder currencies caller user request : Body ι _) s [] := by
  obtain ⟨id,identified,single⟩ := valid.identified
  have standing : Standing none none s [] :=
    ⟨⟨valid.usedCarts,valid.cartIds,List.nil_subset _,trivial⟩,.cartless rfl rfl rfl rfl rfl⟩
  refine during_leaves (get_ct_customer_leaves identified single standing) (fun _ _ standing => standing) ?_
  intro customer s t standing
  refine during_leaves (get_customer_cart_leaves customer.id standing) (fun _ _ standing => standing) ?_
  intro cart? s t looked
  refine during_leaves (delete_existing_leaves looked) (fun _ _ standing => standing) ?_
  intro _ s t unstarted
  refine during_leaves (external_price_leaves valid.currency unstarted) (fun _ _ unstarted => unstarted.1) ?_
  intro externalPrice s t unstarted
  have stays := unstarted_stays (ι := ι) cart?
  refine during_leaves (standalone_price_leaves _ valid.priced stays unstarted) (fun _ _ unstarted => unstarted.1) ?_
  intro standalonePrice s t unstarted
  refine during_leaves (quiet_ends (order_number_within caller) stays unstarted) (fun _ _ unstarted => unstarted.1) ?_
  intro orderNumber s t unstarted
  refine during_leaves (create_cart_leaves _ customer _ externalPrice orderNumber unstarted)
    (fun _ _ unstarted => unstarted.1) ?_
  intro cart s t both
  obtain ⟨⟨own,made⟩,started⟩ := both
  refine during_leaves (payment_info_leaves _ _ _ _ own made) (fun _ _ own => own.standing) ?_
  intro paymentInfo s t ends
  obtain ⟨own,made,looked⟩ := ends
  cases paymentInfo with
  | refused error statusCode =>
    refine during_leaves (delete_cart_leaves own) (fun _ _ failed => failed.1.standing) ?_
    intro _ s t removed
    exact removed_cleans removed _
  | accepted response =>
    have listed : cart ∈ carts t := made ▸ List.mem_singleton_self cart
    refine told_leaves checkout_started_told
      (fun bare through => bare (through.reported.checkout (looked response rfl) cart listed)) fun reportable _ => ?_
    refine told_leaves (.inl ⟨trivial,_,product_added_events_told reportable⟩) (absurd trivial) fun _ _ => ?_
    have told : Told cart s t := ⟨own,made ▸ by simpa using reportable⟩
    refine during_leaves (quiet_ends (payment_within _ _) (told_stays cart) told) (fun _ _ told => told.1.standing) ?_
    intro payment s t told
    refine told_leaves (.inl ⟨trivial,_,rfl⟩) (absurd trivial) fun _ _ => ?_
    exact complete_order_leaves _ standalonePrice cart payment response.regionCode told ⟨started,reportable⟩

end Body

section Examples
open SinglePurchase

def leftCart : Store Unit :=
  ⟨[⟨"customer",1,"ada@example.org","Ada","Byron","7",some "ada"⟩],
    [⟨"old",3,"customer",.active,[],⟨4900,"USD",some 2⟩,none,[],none,[]⟩],[],[],["old","customer"],
    ⟨⟨7,2,OrderNumber.y2025⟩,OrderNumber.y2025,[]⟩⟩

def through (calls : Nat) : List Choice := (List.range calls).map fun k => ⟨true,"id"++toString k⟩
def failing (calls : Nat) : List Choice := List.replicate calls ⟨false,""⟩

def replayed (choices : List Choice) :=
  Prog.replay (Prog.recorded (serve playStore)) mayFail (post usd () learner tapped) choices (leftCart,[])

end Examples

end MobileCleanUp
