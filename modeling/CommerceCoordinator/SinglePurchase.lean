import CommerceCoordinator.PurchaseConsistency
import CommerceCoordinator.PurchaseProtocol

open Commercetools CallTree MobileStore MobileCreateOrder PurchaseProtocol

-- Any number of requests for one store transaction: one order comes of it, unless
-- a request asks whether the payment is dangling while another is about to attach it.
namespace SinglePurchase

section Stages
variable {ι : Type} {t : String} {s s' : Store ι} {stages : ι → Stage} {i : ι} {stage : Stage}

def Knows (t : String) (s : Store ι) : Stage → Prop
  | .waiting _ => True
  | .found _ payment => payment ∈ s.payments ∧ t ∈ payment.interactionIds
  | .paying _ paymentId =>
    (∃ payment ∈ s.payments, payment.id = paymentId ∧ t ∈ payment.interactionIds) ∧ Unattached t s

theorem Knows.later (known : Knows t s stage) (payments : s.payments ⊆ s'.payments)
    (unattached : stage.isPaying = true → Unattached t s') : Knows t s' stage := by
  cases stage with
  | waiting cart => trivial
  | found cart payment => exact ⟨payments known.1,known.2⟩
  | paying cart paymentId =>
    obtain ⟨⟨payment,member,found⟩,_⟩ := known
    exact ⟨⟨payment,payments member,found⟩,unattached rfl⟩

-- The invariant: at most one request is about to attach the payment, and then it
-- is on no cart yet.
structure Safe (t : String) (s : Store ι) (stages : ι → Stage) : Prop where
  store : Consistent t s
  copies : ∀ i cart, (stages i).copy = some cart → Copied s cart
  knows : ∀ i, Knows t s (stages i)
  alone : ∀ i j, i ≠ j → (stages i).isPaying = true → (stages j).isPaying = false

theorem Safe.unattached (safe : Safe t s stages) (paying : (stages i).isPaying = true) : Unattached t s := by
  have known := safe.knows i
  cases at_stage : stages i with
  | paying cart paymentId => rw [at_stage] at known; exact known.2
  | _ => rw [at_stage] at paying; cases paying

theorem Safe.unpaid_calm (safe : Safe t s stages) (unpaid : ∀ p ∈ s.payments, t ∉ p.interactionIds) (j : ι) :
    (stages j).isPaying = false := by
  have known := safe.knows j
  cases at_stage : stages j with
  | paying cart paymentId =>
    rw [at_stage] at known
    obtain ⟨⟨p,present,_,interaction⟩,_⟩ := known
    exact absurd interaction (unpaid p present)
  | _ => rfl

theorem Safe.quiet (safe : Safe t s stages) (carts : s'.carts = s.carts) (payments : s'.payments = s.payments)
    (used : s.usedIds ⊆ s'.usedIds) (change : MobileStore.Order → MobileStore.Order)
    (kept : ∀ o, (change o).payments = o.payments) (orders : s'.orders = s.orders.map change) : Safe t s' stages := by
  have reworks := quiet_reworks safe.store carts payments used
  refine ⟨reworks.consistent_orders safe.store change kept orders,?_,?_,safe.alone⟩
  · exact fun j cart copy => (safe.copies j cart copy).later reworks.frame
  · exact fun j => (safe.knows j).later reworks.frame.payments fun paying => reworks.unattached (safe.unattached paying)

section Apart
variable {outside : Outside} {choice : Choice}

theorem same_quiet (safe : Safe t s stages) (carts : s'.carts = s.carts) (payments : s'.payments = s.payments)
    (orders : s'.orders = s.orders) (used : s.usedIds ⊆ s'.usedIds) : Safe t s' stages :=
  safe.quiet carts payments used (fun o => o) (fun _ => rfl) (orders.trans (List.map_id _).symm)

theorem update_order_safe (safe : Safe t s stages) (orderId : String) (version : Nat) (actions : List TransitionAction) :
    Safe t (serve outside choice (.updateOrderById orderId version actions) s).2 stages := by
  rcases update_order_cases outside choice version s orderId actions with
    ⟨code,refused⟩ | ⟨order,updated,changed,served⟩
  · rw [refused]
    exact safe
  · rw [served]
    refine safe.quiet rfl rfl (List.Subset.refl _) (fun other => if other = order then updated else other) ?_ rfl
    intro other
    split
    · rename_i same
      rw [same,transition_order_kept outside changed]
    · rfl

theorem customers_safe (safe : Safe t s stages) (r : Request ι)
    (customers : (∃ draft, r = .createCustomer draft) ∨ ∃ id version actions, r = .updateCustomerById id version actions) :
    Safe t (serve outside choice r s).2 stages := by
  rcases customers with ⟨draft,rfl⟩ | ⟨id,version,actions,rfl⟩
  · rcases create_customer_cases outside choice s draft with ⟨code,served⟩ | ⟨_,served⟩
    · rw [served]
      exact safe
    · rw [served]
      exact same_quiet safe rfl rfl rfl fun _ used => List.mem_cons_of_mem _ used
  · rcases update_customer_cases outside choice version s id actions with ⟨code,served⟩ | ⟨customer,updated,_,_,served⟩
    · rw [served]
      exact safe
    · rw [served]
      exact same_quiet safe rfl rfl rfl fun _ used => used

end Apart

variable [DecidableEq ι]

theorem Safe.step (safe : Safe t s stages) (frame : Frame s s') (sound : Consistent t s')
    (copies : ∀ cart, stage.copy = some cart → Copied s' cart) (knows : Knows t s' stage)
    (unattached : ∀ j, j ≠ i → (stages j).isPaying = true → Unattached t s')
    (alone : stage.isPaying = true → ∀ j, j ≠ i → (stages j).isPaying = false) :
    Safe t s' (Function.update stages i stage) := by
  refine ⟨sound,?_,?_,?_⟩
  · intro j cart copy
    by_cases same : j = i
    · subst j
      exact copies cart (by simpa using copy)
    · rw [Function.update_of_ne same] at copy
      exact (safe.copies j cart copy).later frame
  · intro j
    by_cases same : j = i
    · subst j
      simpa using knows
    · rw [Function.update_of_ne same]
      exact (safe.knows j).later frame.payments (unattached j same)
  · intro j k different paying
    by_cases first : j = i
    · subst j
      rw [Function.update_self] at paying
      rw [Function.update_of_ne (Ne.symm different)]
      exact alone paying k (Ne.symm different)
    · rw [Function.update_of_ne first] at paying
      by_cases second : k = i
      · subst k
        rw [Function.update_self]
        cases claims : stage.isPaying with
        | false => rfl
        | true => rw [alone claims j first] at paying; cases paying
      · rw [Function.update_of_ne second]
        exact safe.alone j k different paying

theorem Safe.rework (safe : Safe t s stages) (reworks : Reworks s s') (sound : Consistent t s')
    (copies : ∀ cart, stage.copy = some cart → Copied s' cart) (knows : Knows t s' stage)
    (calm : stage.isPaying = false) : Safe t s' (Function.update stages i stage) := by
  refine safe.step reworks.frame sound copies knows ?_ (fun paying => by rw [calm] at paying; cases paying)
  exact fun j _ paying => reworks.unattached (safe.unattached paying)

theorem Safe.calm (safe : Safe t s stages) : Safe t s (Function.update stages i (.waiting (stages i).copy)) := by
  have same : Reworks s s := quiet_reworks safe.store rfl rfl (List.Subset.refl _)
  exact safe.rework same safe.store (fun cart copy => safe.copies i cart copy) trivial rfl

theorem Safe.stay (safe : Safe t s stages) (same : stage = stages i) : Safe t s (Function.update stages i stage) := by
  rw [same,Function.update_eq_self]
  exact safe

section Calls
variable {outside : Outside} {choice : Choice} {cart : Option Cart}

theorem get_cart_safe (safe : Safe t s stages) (at_stage : stages i = .waiting cart)
    (moved : moves (stages i) (.getCartByCustomerId customerId)
      (serve outside choice (.getCartByCustomerId customerId) s).1 stage) :
    Safe t s (Function.update stages i stage) := by
  simp only [moves,serve,at_stage] at moved
  split at moved
  · split at moved
    · rename_i found last
      cases moved
      obtain ⟨present,listed⟩ := List.mem_filter.mp (List.mem_of_getLast? last)
      have active : found.cartState = .active := (of_decide_eq_true listed).2
      have same : Reworks s s := quiet_reworks safe.store rfl rfl (List.Subset.refl _)
      refine safe.rework same safe.store ?_ trivial rfl
      intro copy own
      cases own
      exact safe.store.copied present active
    · exact safe.stay (moved.trans at_stage.symm)
  · exact safe.stay (moved.trans at_stage.symm)

theorem delete_safe {cart : Cart} (safe : Safe t s stages) (at_stage : stages i = .waiting (some cart))
    (moved : moves (stages i) (.deleteCartById cart.id cart.version)
      (serve outside choice (.deleteCartById cart.id cart.version) s).1 stage) :
    Safe t (serve outside choice (.deleteCartById cart.id cart.version) s).2 (Function.update stages i stage) := by
  have copied := safe.copies i cart (by rw [at_stage]; rfl)
  simp only [moves] at moved
  subst moved
  rcases delete_cart_cases outside choice cart.id cart.version s with ⟨code,served⟩ | ⟨stored,found,current,served⟩
  · rw [served]
    exact safe.stay rfl
  · rw [served]
    obtain ⟨present,same⟩ := find_cart found
    have active := copied.current present same current
    have reworks := delete_cart_reworks safe.store present active
    rw [same] at reworks
    have frame := reworks.frame
    refine safe.rework reworks ?_ ?_ ?_ (by rw [at_stage]; rfl)
    · exact reworks.consistent_orders safe.store (fun o => o) (fun _ => rfl) (List.map_id _).symm
    · exact fun copy own => (safe.copies i copy own).later frame
    · rw [at_stage]; trivial

theorem create_cart_safe (safe : Safe t s stages) (at_stage : stages i = .waiting cart)
    (moved : moves (stages i) (.createCart draft) (serve outside choice (.createCart draft) s).1 stage) :
    Safe t (serve outside choice (.createCart draft) s).2 (Function.update stages i stage) := by
  rcases create_cart_cases outside choice s draft with ⟨code,served⟩ | ⟨fresh,served⟩
  · simp only [moves,served,at_stage] at moved ⊢
    exact safe.stay (moved.trans at_stage.symm)
  · simp only [moves,served,at_stage] at moved ⊢
    cases moved
    have unused : (cartOf outside choice.id draft).id ∉ s.usedIds := fresh
    have reworks := create_cart_reworks safe.store unused rfl
    have sound := reworks.consistent_orders safe.store (fun o => o) (fun _ => rfl) (List.map_id _).symm
    refine safe.rework reworks sound ?_ trivial rfl
    intro copy own
    cases own
    exact sound.copied (List.mem_append_right _ (List.mem_singleton.mpr rfl)) rfl

theorem query_payments_safe (safe : Safe t s stages) (at_stage : stages i = .waiting cart)
    (moved : moves (stages i) (.queryPayments t) (serve outside choice (.queryPayments t) s).1 stage) :
    Safe t s (Function.update stages i stage) := by
  simp only [moves,serve,at_stage] at moved
  split at moved
  · cases results : s.payments.filter (t ∈ ·.interactionIds) with
    | nil =>
      simp only [results,Except.toOption,Stage.finds] at moved
      exact safe.stay (moved.trans at_stage.symm)
    | cons payment rest =>
      simp only [results,Except.toOption,Stage.finds,Stage.copy] at moved
      subst moved
      have found : payment ∈ s.payments.filter (t ∈ ·.interactionIds) := by rw [results]; exact List.mem_cons_self
      obtain ⟨present,paid⟩ := List.mem_filter.mp found
      have same : Reworks s s := quiet_reworks safe.store rfl rfl (List.Subset.refl _)
      refine safe.rework same safe.store ?_ ⟨present,of_decide_eq_true paid⟩ rfl
      exact fun copy own => safe.copies i copy (by rw [at_stage]; exact own)
  · exact safe.stay (moved.trans at_stage.symm)

-- The check: nobody else is about to attach the payment that is found dangling.
theorem query_carts_safe (safe : Safe t s stages) (at_stage : stages i = .found cart payment)
    (alone : choice.answers = true → ∀ j, j ≠ i → (stages j).isPaying = false)
    (moved : moves (stages i) (.queryCarts payment.id) (serve outside choice (.queryCarts payment.id) s).1 stage) :
    Safe t s (Function.update stages i stage) := by
  simp only [moves,serve] at moved
  rcases moved with taken | rfl
  · rw [at_stage] at taken
    split at taken
    · rename_i answered
      cases results : s.carts.filter (payment.id ∈ ·.payments) with
      | cons other rest => rw [results] at taken; cases taken
      | nil =>
        rw [results] at taken
        cases taken
        have known := safe.knows i
        rw [at_stage] at known
        have unattached : Unattached t s := by
          intro c member both
          obtain ⟨p,present,paid,listed⟩ := both
          rw [safe.store.payment present known.1 paid known.2] at listed
          have kept : c ∈ s.carts.filter (payment.id ∈ ·.payments) := List.mem_filter.mpr ⟨member,decide_eq_true listed⟩
          rw [results] at kept
          cases kept
        have same : Reworks s s := quiet_reworks safe.store rfl rfl (List.Subset.refl _)
        refine safe.step same.frame safe.store ?_ ⟨⟨payment,known.1,rfl,known.2⟩,unattached⟩ (fun _ _ _ => unattached)
          fun _ => alone answered
        exact fun copy own => safe.copies i copy (by rw [at_stage]; exact own)
    · cases taken
  · exact safe.calm

theorem create_payment_safe (safe : Safe t s stages) (at_stage : stages i = .waiting cart)
    (paid : draft.interactionId = t) (keyed : draft.key = normalizedPaymentKey t)
    (moved : moves (stages i) (.createPayment draft) (serve outside choice (.createPayment draft) s).1 stage) :
    Safe t (serve outside choice (.createPayment draft) s).2 (Function.update stages i stage) := by
  simp only [moves,serve] at moved ⊢
  split at moved
  · rename_i accepted
    rw [if_pos accepted]
    split at moved
    · rename_i duplicate
      rw [if_pos duplicate]
      exact safe.stay moved
    · rename_i unkeyed
      rw [if_neg unkeyed]
      have fresh : (paymentOf choice.id draft).id ∉ s.usedIds := accepted.2
      have key : (paymentOf choice.id draft).key = some (normalizedPaymentKey t) := congrArg some keyed
      have other : ∀ p ∈ s.payments, p.key ≠ (paymentOf choice.id draft).key := fun p member same =>
        unkeyed (List.any_eq_true.mpr ⟨p,member,decide_eq_true same⟩)
      have sound := create_payment_consistent safe.store fresh key other
      have unpaid : ∀ p ∈ s.payments, t ∉ p.interactionIds := fun p => unkeyed_unpaid safe.store (key ▸ other)
      have unattached : Unattached t {s with
          payments := s.payments++[paymentOf choice.id draft], usedIds := choice.id::s.usedIds} :=
        fun c => new_payment_unattached safe.store fresh unpaid
      have frame := new_payment_frame (s := s) (paymentOf choice.id draft)
      simp only [at_stage,Except.toOption,Stage.creates,Stage.copy] at moved
      subst moved
      refine safe.step frame sound ?_ ⟨⟨_,List.mem_append_right _ (List.mem_singleton.mpr rfl),rfl,?_⟩,unattached⟩
        (fun _ _ _ => unattached) fun _ j _ => safe.unpaid_calm unpaid j
      · exact fun copy own => (safe.copies i copy (by rw [at_stage]; exact own)).later frame
      · exact List.mem_singleton.mpr paid.symm
  · rename_i refused
    rw [if_neg refused]
    exact safe.stay moved

theorem update_cart_safe (safe : Safe t s stages) (at_stage : stages i = .paying cart paymentId)
    (moved : moves (stages i) (.updateCartById cartId version actions)
      (serve outside choice (.updateCartById cartId version actions) s).1 stage) :
    Safe t (serve outside choice (.updateCartById cartId version actions) s).2 (Function.update stages i stage) := by
  have paying : (stages i).isPaying = true := by rw [at_stage]; rfl
  rcases update_cart_cases outside choice cartId version s actions with
    ⟨code,refused⟩ | ⟨stored,updated,found,accepted,served⟩
  · rw [refused] at moved ⊢
    rcases moved with same | ⟨_,rfl⟩
    · exact safe.stay same
    · exact safe.calm
  · rw [served] at moved ⊢
    obtain ⟨present,_⟩ := find_cart found
    obtain ⟨id,newer,active,used⟩ := update_cart_accepted safe.store accepted present
    have sound := attach_consistent safe.store (safe.unattached paying) present id used
    rcases moved with rfl | ⟨never,_⟩
    · refine safe.step (replace_frame present id newer) sound ?_ trivial ?_ (fun never => by cases never)
      · intro copy own
        cases own
        exact sound.copied (mem_replace.mpr (.inr rfl)) active
      · intro j other also
        rw [safe.alone i j (Ne.symm other) paying] at also
        cases also
    · cases never

theorem create_order_safe (safe : Safe t s stages) (at_stage : stages i = .waiting cart)
    (moved : moves (stages i) (.createOrder cartId version orderNumber)
      (serve outside choice (.createOrder cartId version orderNumber) s).1 stage) :
    Safe t (serve outside choice (.createOrder cartId version orderNumber) s).2 (Function.update stages i stage) := by
  cases moved
  rcases create_order_cases outside choice cartId version s orderNumber with
    ⟨code,refused⟩ | ⟨stored,found,_,active,_,served⟩
  · rw [refused]
    exact safe.stay rfl
  · rw [served]
    obtain ⟨present,_⟩ := find_cart found
    have reworks := order_cart_reworks safe.store present active (s.orders++[orderOf choice.id orderNumber stored]) choice.id
    have sound := order_cart_consistent safe.store present active choice.id orderNumber
    refine safe.rework reworks sound ?_ ?_ (by rw [at_stage]; rfl)
    · exact fun copy own => (safe.copies i copy own).later reworks.frame
    · rw [at_stage]; trivial

end Calls

theorem call_safe {outside : Outside} {choice : Choice} {r : Request ι} (safe : Safe t s stages)
    (called : calls t (stages i) r)
    (alone : ∀ paymentId, r = .queryCarts paymentId → choice.answers = true →
      ∀ j, j ≠ i → (stages j).isPaying = false)
    (moved : moves (stages i) r (serve outside choice r s).1 stage) :
    Safe t (serve outside choice r s).2 (Function.update stages i stage) := by
  cases at_stage : stages i with
  | waiting cart =>
    rw [at_stage] at called
    cases r with
    | getCartByCustomerId customerId => exact get_cart_safe safe at_stage moved
    | deleteCartById id version =>
      obtain ⟨own,rfl,rfl,rfl⟩ := called
      exact delete_safe safe at_stage moved
    | createCart draft => exact create_cart_safe safe at_stage moved
    | queryPayments interactionId =>
      cases called
      exact query_payments_safe safe at_stage moved
    | createPayment draft => exact create_payment_safe safe at_stage called.1 called.2 moved
    | createOrder cartId version orderNumber => exact create_order_safe safe at_stage moved
    | queryCarts paymentId => exact called.elim
    | updateCartById id version actions => exact called.elim
    | updateOrderById id version actions =>
      rw [show stage = stages i from moved,Function.update_eq_self]
      exact update_order_safe safe id version actions
    | createCustomer draft =>
      rw [show stage = stages i from moved,Function.update_eq_self]
      exact customers_safe safe _ (.inl ⟨draft,rfl⟩)
    | updateCustomerById id version actions =>
      rw [show stage = stages i from moved,Function.update_eq_self]
      exact customers_safe safe _ (.inr ⟨id,version,actions,rfl⟩)
    | orderNumber request =>
      rw [show stage = stages i from moved,Function.update_eq_self]
      exact same_quiet safe rfl rfl rfl fun _ used => used
    | _ => exact safe.stay moved
  | found cart payment =>
    rw [at_stage] at called
    cases r with
    | queryCarts paymentId =>
      cases called
      exact query_carts_safe safe at_stage (alone _ rfl) moved
    | _ => exact called.elim
  | paying cart paymentId =>
    rw [at_stage] at called
    cases r with
    | updateCartById id version actions => exact update_cart_safe safe at_stage moved
    | _ => exact called.elim

end Stages

section Runs
variable {ι : Type}

abbrev Requests (ι : Type) := Config (Request ι) Response Exn HttpResponse (Store ι) ι

def posts (currencies : String → Option Nat) (users : ι → User) (requests : ι → MobileOrderRequest) (i : ι) :
    Call ι HttpResponse := post currencies i (users i) (requests i)

def asksWhetherDangling : Call ι HttpResponse → Bool
  | .call (.queryCarts _) _ => true
  | _ => false

def attaches : Call ι HttpResponse → Bool
  | .call (.updateCartById _ _ _) _ => true
  | _ => false

def AsksAlone (c : Requests ι) : Event ι Choice OrderNumber.Year → Prop
  | .act i choice => choice.answers = true → asksWhetherDangling (c.threads i) = true →
      ∀ j, j ≠ i → attaches (c.threads j) = false
  | _ => True

theorem paying_attaches {p : Call ι HttpResponse} (follows : p.Follows (purchase outside t) Idle stage)
    (paying : stage.isPaying = true) : attaches p = true := by
  cases stage with
  | paying cart paymentId =>
    cases p with
    | pure response => obtain ⟨_,never⟩ := follows; cases never
    | raise e => obtain ⟨_,never⟩ := follows; cases never
    | call r next =>
      cases r with
      | updateCartById id version actions => rfl
      | _ => exact follows.1.elim
  | _ => cases paying

variable [DecidableEq ι]

section Along
variable {outside : Outside} {currencies : String → Option Nat} {users : ι → User}
  {requests : ι → MobileOrderRequest} {t : String} {store : Store ι}

theorem requests_safe (transaction : ∀ i price id, transactionIdOf outside (requests i) price = some id → id = t)
    (sound : Consistent t store)
    (path : RunsWhen ((commercetools outside).step (posts currencies users requests)) AsksAlone
      ⟨store,posts currencies users requests⟩ events c) : ∃ stages : ι → Stage, Safe t c.shared stages := by
  refine (stages_along (commercetools outside) (purchase outside t) Idle (Safe t) (fun _ => .waiting none)
    (fun i => post_follows currencies i (users i) (requests i) (transaction i))
    ⟨sound,fun _ _ never => (by cases never),fun _ => trivial,fun _ _ _ never => (by cases never)⟩
    (serve_answers outside) (fun _ => rfl) ?_ ?_ path).imp fun _ both => both.2
  · intro c stages i choice r next v' follow safe alone at_call called moved
    refine call_safe safe called ?_ moved
    intro paymentId kept answered j other
    cases kept
    cases paying : (stages j).isPaying with
    | false => rfl
    | true =>
      have quiet := alone answered (by rw [at_call]; rfl) j other
      rw [paying_attaches (follow j) paying] at quiet
      cases quiet
  · intro year s s' stages ticked safe
    obtain ⟨counter,_,rfl⟩ := Option.map_eq_some_iff.mp ticked
    exact same_quiet safe rfl rfl rfl fun _ used => used

end Along

theorem pairwise_one {α : Type} {listed : List α} {p : α → Prop} [DecidablePred p]
    (apart : listed.Pairwise fun a b => ¬ (p a ∧ p b)) : (listed.filter fun a => decide (p a)).length ≤ 1 := by
  induction apart with
  | nil => exact Nat.zero_le 1
  | @cons a rest first _ ih =>
    by_cases here : p a
    · have none_ : rest.filter (fun b => decide (p b)) = [] :=
        List.filter_eq_nil_iff.mpr fun b member => by simpa using fun there => first b member ⟨here,there⟩
      simp [here,none_]
    · simpa [here] using ih

theorem at_most_one_order (outside : Outside) (currencies : String → Option Nat) (users : ι → User)
    (requests : ι → MobileOrderRequest) (t : String)
    (transaction : ∀ i price id, transactionIdOf outside (requests i) price = some id → id = t)
    (store : Store ι) (sound : Consistent t store)
    (path : RunsWhen ((commercetools outside).step (posts currencies users requests)) AsksAlone
      ⟨store,posts currencies users requests⟩ events c) :
    (c.shared.orders.filter fun order => decide (Attached t c.shared order.payments)).length ≤ 1 := by
  obtain ⟨stages,safe⟩ := requests_safe transaction sound path
  exact pairwise_one safe.store.orders

instance {c : Requests (Fin n)} : (event : Event (Fin n) Choice OrderNumber.Year) → Decidable (AsksAlone c event)
  | .act _ _ => inferInstanceAs (Decidable (_ → _ → ∀ _, _ → _))
  | .restart _ => isTrue trivial
  | .world _ => isTrue trivial

def playStore : Outside where
  googlePlay := fun productId purchaseToken =>
    if productId = "mobile.android.usd49" ∧ purchaseToken = "token" then .ok ⟨some "GPA.1",0,some 1,none⟩
    else .error "not found"
  appStore := fun _ => .error "not found"
  standalonePrices := fun _ => [⟨4900,"USD",some 2⟩]
  products := fun sku => ⟨some "course-key",[("en-US","Course")],some ⟨some "edx_course","edX Course"⟩,some sku,some [],[]⟩
  discountOnTotalPrice := fun _ => none
  initialStateId := "initial"
  stateId := fun key => some key

def usd (code : String) : Option Nat := if code = "USD" then some 2 else none

def learner : User := ⟨some 7,"ada","ada@example.org","Ada","Byron",""⟩

def tapped : MobileOrderRequest := ⟨androidIap,"token",⟨"course","USD",4900000,androidIap,"token"⟩⟩

def unsold : Store (Fin 2) :=
  ⟨[⟨"customer",1,"ada@example.org","Ada","Byron","7",some "ada"⟩],[],[],[],["customer"],
    ⟨⟨7,2,OrderNumber.y2025⟩,OrderNumber.y2025,[]⟩⟩

def doubleTap : Requests (Fin 2) := ⟨unsold,posts usd (fun _ => learner) fun _ => tapped⟩

def proceed (i : Fin 2) (done calls : Nat) : List (Event (Fin 2) Choice OrderNumber.Year) :=
  (List.range calls).map fun k => .act i ⟨true,toString (i.val*100+done+k)⟩

local instance two_requests : NeZero 2 := ⟨by omega⟩

def refusedInTime : List (Event (Fin 2) Choice OrderNumber.Year) :=
  proceed 1 0 2 ++ proceed 0 0 12 ++ proceed 1 2 10 ++ proceed 0 12 2

theorem unsold_consistent : Consistent "GPA.1" unsold := by
  constructor <;> simp [unsold]

theorem tapped_transaction (price : Int) {carries : String}
    (carried : transactionIdOf playStore tapped price = some carries) : carries = "GPA.1" := by
  have android : tapped.paymentProcessor = androidIap := rfl
  unfold transactionIdOf at carried
  rw [if_pos android] at carried
  split at carried
  · rename_i purchase answered
    unfold playStore at answered
    dsimp only at answered
    split at answered
    · cases answered
      cases carried
      rfl
    · cases answered
  · cases carried

theorem second_request_refused :
    ∃ c, run ((commercetools playStore).step doubleTap.threads) doubleTap refusedInTime = some c ∧
      c.shared.orders.length = 1 ∧
      (c.shared.orders.filter fun order => decide (Attached "GPA.1" c.shared order.payments)).length ≤ 1 := by
  have ran : (guardedRun ((commercetools playStore).step doubleTap.threads) (fun c event => decide (AsksAlone c event))
      doubleTap refusedInTime).map (fun c => c.shared.orders.length) = some 1 := by
    decide +kernel
  obtain ⟨c,reached,ordered⟩ := Option.map_eq_some_iff.mp ran
  have path : RunsWhen ((commercetools playStore).step doubleTap.threads) AsksAlone doubleTap refusedInTime c :=
    RunsWhen.nil.guarded (fun c event => of_decide_eq_true) reached
  exact ⟨c,path.sound,ordered,at_most_one_order playStore usd (fun _ => learner) (fun _ => tapped) "GPA.1"
    (fun _ price _ => tapped_transaction price) unsold unsold_consistent path⟩

-- The second request finds the payment dangling before the first attaches it.
def bothAttach : List (Event (Fin 2) Choice OrderNumber.Year) :=
  proceed 1 0 2 ++ proceed 0 0 11 ++ proceed 1 2 12 ++ proceed 0 11 3

theorem one_purchase_two_orders :
    ∃ c, run ((commercetools playStore).step doubleTap.threads) doubleTap bothAttach = some c ∧
      (c.shared.orders.filter fun order => decide (Attached "GPA.1" c.shared order.payments)).length = 2 := by
  have ran : (run ((commercetools playStore).step doubleTap.threads) doubleTap bothAttach).map (fun c =>
      (c.shared.orders.filter fun order => decide (Attached "GPA.1" c.shared order.payments)).length) = some 2 := by
    decide +kernel
  exact Option.map_eq_some_iff.mp ran

end Runs
end SinglePurchase
