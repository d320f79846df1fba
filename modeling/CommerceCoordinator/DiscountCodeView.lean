import CommerceCoordinator.DiscountEligibility
import CommerceCoordinator.PredicateEvaluation

open Commercetools CallTree StoreQueries DiscountEligibility
open CartPredicateParser (Terminal Rule Object Expression)

-- `DiscountCodeInfoView`: whether a code is applicable for a learner and a course run.
namespace DiscountCodeView

section View
variable {N : Type} [Zero N] [One N] [BEq N] [LT N] [LE N] [DecidableLT N] [DecidableLE N]

inductive Response where
  | badRequest (message : String)
  | info (isApplicable : Bool) (discountPercentage : ℚ)

-- `parse` is that of Lark, `float`, `str` and `strTuple` are those of Python.
structure Parser (N : Type) where
  parse : String → Except Exn (Lark.Tree Terminal Rule)
  float : String → N
  str : Object N → String
  strTuple : String → List (Expression N) → String

def Parser.check (parser : Parser N) (predicate : String) (context : Object N) : Except Exn Bool := do
  let parsedTree ← parser.parse predicate
  CartPredicateParser.check parser.str parser.strTuple parser.float parsedTree context false

def checkUse (lmsUserId : Option Nat) (code : String) (info : DiscountCodeInfo) : Call N Bool :=
  if info.isApplicable ∧ info.maxApplicationsPerCustomer > 0 then do
    match ← getCustomerByLmsUserId true lmsUserId with
    | some customer => isFirstTimeDiscountEligible true code customer.id "" true
    | none => return info.isApplicable
  else .pure info.isApplicable

-- A predicate that cannot be checked is bypassed.
def checkPredicate (parser : Parser N) (courseRunKey cartPredicate : String) (isApplicable : Bool) : Call N Bool :=
  if isApplicable ∧ cartPredicate ≠ "1 = 1" then do
    match ← getProductAndVariantByCourseRunKey true courseRunKey with
    | (some product,some productVariant) =>
      match parser.check cartPredicate (CartPredicateParser.createContextFromCtProductAndVariant
          product.toProductProjection productVariant.toProductVariant) with
      | .ok checked => return checked
      | .error _ => return isApplicable
    | _ => return isApplicable
  else .pure isApplicable

-- After the validation of the query.
def get (parser : Parser N) (lmsUserId : Option Nat) (code courseRunKey : String) : Call N Response :=
  Prog.handle
    (do
      match ← getDiscountCodeInfo true code with
      | none => return .badRequest "Discount code not found"
      | some discountCodeInfo =>
        let isApplicable ← checkUse lmsUserId code discountCodeInfo
        let isApplicable ← checkPredicate parser courseRunKey discountCodeInfo.cartPredicate isApplicable
        return .info isApplicable discountCodeInfo.discountPercentage)
    fun
      | .commercetoolsError _ => .pure (.badRequest "Something went wrong.")
      | error => .raise error

end View

section Found
variable {N : Type} {shop : Shop N} {code : String} {discountCode : DiscountCode} {cartDiscount : CartDiscount}

-- The reading of the clock after that of a limit.
def afterLimit (limit : Option Int) (k : Nat) : Nat := if limit.isSome then k+1 else k

def applicable (shop : Shop N) (discountCode : DiscountCode) (cartDiscount : CartDiscount) (k : Nat) : Bool :=
  discountCode.isActive && cartDiscount.isActive && discountPercentage cartDiscount > 0 &&
    cartDiscount.validFrom.all (· ≤ shop.clock k) &&
    cartDiscount.validUntil.all (shop.clock (afterLimit cartDiscount.validFrom k) ≤ ·)

theorem reached_result (validFrom : Option Int) (k : Nat) :
    (reached validFrom).exec (serve shop) k = (.ok (validFrom.all (· ≤ shop.clock k)),afterLimit validFrom k) := by
  cases validFrom <;> rfl

theorem notPassed_result (validUntil : Option Int) (k : Nat) :
    (notPassed validUntil).exec (serve shop) k = (.ok (validUntil.all (shop.clock k ≤ ·)),afterLimit validUntil k) := by
  cases validUntil <;> rfl

theorem isApplicable_result (shop : Shop N) (discountCode : DiscountCode) (cartDiscount : CartDiscount) (k : Nat) :
    ∃ k', (isApplicable discountCode cartDiscount).exec (serve shop) k = (.ok (applicable shop discountCode cartDiscount k),k') := by
  unfold isApplicable applicable
  by_cases usable : discountCode.isActive ∧ cartDiscount.isActive ∧ discountPercentage cartDiscount > 0
  · rw [if_pos usable]
    obtain ⟨active,discountActive,positive⟩ := usable
    rw [active,discountActive,decide_eq_true positive,Prog.monad_bind,Prog.exec_bind,reached_result]
    cases started : cartDiscount.validFrom.all (· ≤ shop.clock k) with
    | true => exact ⟨_,notPassed_result _ _⟩
    | false => exact ⟨_,rfl⟩
  · rw [if_neg usable]
    refine ⟨k,?_⟩
    have unusable : (discountCode.isActive && cartDiscount.isActive && decide (discountPercentage cartDiscount > 0)) = false := by
      simpa [and_assoc] using usable
    rw [unusable]
    rfl

theorem info_result (listed : shop.discountCodes.find? (·.code = code) = some discountCode)
    (discounts : discountCode.cartDiscounts.head? = some (some cartDiscount)) (k : Nat) :
    ∃ k', (getDiscountCodeInfo true code).exec (serve shop) k =
      (.ok (some ⟨cartDiscount.cartPredicate,discountPercentage cartDiscount,applicable shop discountCode cartDiscount k,
        discountCode.maxApplicationsPerCustomer.getD 0⟩),k') := by
  obtain ⟨k',checked⟩ := isApplicable_result shop discountCode cartDiscount k
  refine ⟨k',exec_answered shop true ?_⟩
  obtain ⟨others,found⟩ : ∃ others, (shop.discountCodes.filter (·.code = code)).take queryLimit = discountCode::others := by
    have first : (shop.discountCodes.filter (·.code = code)).head? = some discountCode := by rw [List.head?_filter,listed]
    obtain ⟨others,split⟩ := List.head?_eq_some_iff.mp first
    exact ⟨others.take 19,by rw [split]; rfl⟩
  obtain ⟨more,split⟩ := List.head?_eq_some_iff.mp discounts
  have asked : (Prog.expect Exn.commercetoolsError (Prog.perform (Request.queryDiscountCodes code ["cartDiscounts[*]"])) :
      Call N (List DiscountCode)).exec (serve shop) k = (.ok (discountCode::others),k) := by
    rw [← found]
    rfl
  rw [Prog.monad_bind,Prog.exec_bind,asked]
  dsimp only
  rw [split]
  dsimp only
  rw [Prog.monad_bind,Prog.exec_bind,checked]
  rfl

theorem customer_result {user : Nat} {customer : Customer} (lmsUser : user ≠ 0)
    (known : shop.customers.filter (·.lmsUserId = toString user) = [customer]) (k : Nat) :
    (getCustomerByLmsUserId true (some user)).exec (serve shop) k = (.ok (some customer),k) := by
  refine exec_answered shop true ?_
  have asked : (Prog.expect Exn.commercetoolsError (Prog.perform (Request.queryCustomers (toString user))) :
      Call N (List Customer)).exec (serve shop) k = (.ok [customer],k) := by
    change (Except.ok ((shop.customers.filter (·.lmsUserId = toString user)).take 2),k) = _
    rw [known]
    rfl
  split
  · contradiction
  · rename_i zero
    cases zero
    exact absurd rfl lmsUser
  · rename_i same
    cases same
    rw [Prog.monad_bind,Prog.exec_bind,asked]
    rfl

end Found

section Limit
variable {N : Type}

structure Uses (shop : Shop N) (code : String) (user : Nat) (discountCode : DiscountCode) (cartDiscount : CartDiscount)
    (customer : Customer) : Prop where
  listed : shop.discountCodes.find? (·.code = code) = some discountCode
  discounts : discountCode.cartDiscounts.head? = some (some cartDiscount)
  everyCart : cartDiscount.cartPredicate = "1 = 1"
  lmsUser : user ≠ 0
  known : shop.customers.filter (·.lmsUserId = toString user) = [customer]
  named : customer.id ≠ ""
  onePage : (history shop customer.id "").length ≤ queryLimit
  onlyCode : ∀ order ∈ history shop customer.id "", order.discountCodes = [some code]

variable {shop : Shop N} {code : String} {user : Nat} {discountCode : DiscountCode} {cartDiscount : CartDiscount}
  {customer : Customer}

theorem used_result (uses : Uses shop code user discountCode cartDiscount customer) (k : Nat) :
    (isFirstTimeDiscountEligible true code customer.id "" true).exec (serve shop) k =
      (.ok (decide ((history shop customer.id "").length = 0)),k) := by
  rw [eligible_result shop true true (.inl uses.named)]
  have discounted : (history shop customer.id "").filter (·.discountCodes ≠ []) = history shop customer.id "" := by
    refine List.filter_eq_self.mpr fun order member => ?_
    simp [uses.onlyCode order member]
  have page : firstPage (history shop customer.id "") = history shop customer.id "" := by
    unfold firstPage
    rw [discounted,List.take_of_length_le uses.onePage]
  rw [page]
  cases past : history shop customer.id "" with
  | nil => rfl
  | cons order rest =>
    have only := uses.onlyCode order (by simp [past])
    simp [carriesFirst,only]

theorem checkUse_result (uses : Uses shop code user discountCode cartDiscount customer) (info : DiscountCodeInfo) (k : Nat) :
    (checkUse (some user) code info).exec (serve shop) k =
      (.ok (info.isApplicable && (info.maxApplicationsPerCustomer = 0 || (history shop customer.id "").length = 0)),k) := by
  unfold checkUse
  by_cases limited : info.isApplicable ∧ info.maxApplicationsPerCustomer > 0
  · obtain ⟨found,positive⟩ := limited
    have numbered : info.maxApplicationsPerCustomer ≠ 0 := by omega
    rw [if_pos ⟨found,positive⟩,Prog.monad_bind,Prog.exec_bind,customer_result uses.lmsUser uses.known]
    dsimp only
    rw [used_result uses]
    simp [found,numbered]
  · rw [if_neg limited,Prog.exec_pure]
    cases found : info.isApplicable with
    | false => rfl
    | true =>
      have unlimited : info.maxApplicationsPerCustomer = 0 := by
        by_contra numbered
        exact limited ⟨found,by omega⟩
      simp [unlimited]

variable [Zero N] [One N] [BEq N] [LT N] [LE N] [DecidableLT N] [DecidableLE N]

theorem report_result (parser : Parser N) (courseRunKey : String)
    (uses : Uses shop code user discountCode cartDiscount customer) (k : Nat) :
    ((get parser (some user) code courseRunKey).exec (serve shop) k).1 =
      .ok (.info (applicable shop discountCode cartDiscount k &&
        (discountCode.maxApplicationsPerCustomer.getD 0 = 0 || (history shop customer.id "").length = 0))
        (discountPercentage cartDiscount)) := by
  obtain ⟨k',found⟩ := info_result uses.listed uses.discounts k
  unfold get
  rw [Prog.exec_handle,Prog.monad_bind,Prog.exec_bind,found]
  dsimp only
  rw [Prog.monad_bind,Prog.exec_bind,checkUse_result uses]
  dsimp only
  unfold checkPredicate
  rw [if_neg (fun changed => changed.2 uses.everyCart)]
  rfl

def Reports (shop : Shop N) (parser : Parser N) (user : Nat) (code courseRunKey : String) (k : Nat) : Prop :=
  ∃ discountPercentage, ((get parser (some user) code courseRunKey).exec (serve shop) k).1 = .ok (.info true discountPercentage)

def FoundApplicable (shop : Shop N) (code : String) (k : Nat) : Prop :=
  ∃ info, ((getDiscountCodeInfo true code).exec (serve shop) k).1 = .ok (some info) ∧ info.isApplicable = true

theorem reports_limit_iff (parser : Parser N) (courseRunKey : String)
    (uses : Uses shop code user discountCode cartDiscount customer) (k : Nat) :
    (Reports shop parser user code courseRunKey k ↔ FoundApplicable shop code k ∧
      (discountCode.maxApplicationsPerCustomer.getD 0 = 0 ∨
        (history shop customer.id "").length < discountCode.maxApplicationsPerCustomer.getD 0)) ↔
    (applicable shop discountCode cartDiscount k = true → discountCode.maxApplicationsPerCustomer.getD 0 ≤ 1 ∨
      (history shop customer.id "").length = 0 ∨
      discountCode.maxApplicationsPerCustomer.getD 0 ≤ (history shop customer.id "").length) := by
  have reports : Reports shop parser user code courseRunKey k ↔ applicable shop discountCode cartDiscount k = true ∧
      (discountCode.maxApplicationsPerCustomer.getD 0 = 0 ∨ (history shop customer.id "").length = 0) := by
    unfold Reports
    rw [report_result parser courseRunKey uses]
    simp
  have found : FoundApplicable shop code k ↔ applicable shop discountCode cartDiscount k = true := by
    obtain ⟨k',result⟩ := info_result uses.listed uses.discounts k
    unfold FoundApplicable
    rw [result]
    simp
  rw [reports,found]
  generalize discountCode.maxApplicationsPerCustomer.getD 0 = limit
  generalize (history shop customer.id "").length = past
  cases applicable shop discountCode cartDiscount k with
  | false => simp
  | true =>
    simp only [true_and,forall_const]
    omega

end Limit

section Spring

def springDiscount : CartDiscount := ⟨"1 = 1",.relative 1000,true,some 0,none⟩

def springCode (limit : Option Nat) : DiscountCode := ⟨"SPRING",true,[some springDiscount],limit⟩

def springShop (limit : Option Nat) : Shop Int where
  orders := [⟨some "customer",some "learner@example.com",.complete,[some "SPRING"]⟩]
  discountCodes := [springCode limit]
  customers := [⟨"customer","7"⟩]
  search := fun _ _ => []
  clock := fun _ => 1

-- A cart predicate of "1 = 1" is never parsed.
def springParser : Parser Int := ⟨fun _ => .error .valueError,fun _ => 0,fun _ => "",fun _ _ => ""⟩

theorem spring_uses (limit : Option Nat) :
    Uses (springShop limit) "SPRING" 7 (springCode limit) springDiscount ⟨"customer","7"⟩ where
  listed := rfl
  discounts := rfl
  everyCart := rfl
  lmsUser := by omega
  known := rfl
  named := by decide
  onePage := (List.length_filter_le _ _).trans (by
    change 1 ≤ 20
    omega)
  onlyCode := by
    intro order member
    obtain rfl := List.mem_singleton.mp (List.mem_of_mem_filter member)
    rfl

theorem single_use_reported :
    (Reports (springShop (some 1)) springParser 7 "SPRING" "course-v1:edX+DemoX+1T2025" 0 ↔
      FoundApplicable (springShop (some 1)) "SPRING" 0 ∧ (1 = 0 ∨ (history (springShop (some 1)) "customer" "").length < 1)) :=
  (reports_limit_iff springParser _ (spring_uses (some 1)) 0).mpr fun _ => .inl (by decide)

theorem second_use_refused :
    ¬(Reports (springShop (some 2)) springParser 7 "SPRING" "course-v1:edX+DemoX+1T2025" 0 ↔
      FoundApplicable (springShop (some 2)) "SPRING" 0 ∧ (2 = 0 ∨ (history (springShop (some 2)) "customer" "").length < 2)) := by
  intro exact
  have found : FoundApplicable (springShop (some 2)) "SPRING" 0 := by
    obtain ⟨k',result⟩ := info_result (spring_uses (some 2)).listed (spring_uses (some 2)).discounts 0
    rw [FoundApplicable,result]
    exact ⟨_,rfl,by decide +kernel⟩
  obtain ⟨percentage,reported⟩ := exact.mpr ⟨found,.inr (by decide)⟩
  rw [report_result springParser _ (spring_uses (some 2))] at reported
  injection reported with answer
  injection answer with allowed
  exact absurd allowed (by decide +kernel)

end Spring

end DiscountCodeView
