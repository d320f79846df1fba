import CommerceCoordinator.LegacyOrders

open Commercetools LegacyOrders

-- Which pages of orders are converted in full.
namespace OrderPages

section Outcomes
variable {α β : Type} {x : Except Exn α} {f : α → Except Exn β}

def Returns (x : Except Exn α) : Prop := ∃ a, x = .ok a

@[simp] theorem returns_ok (a : α) : Returns (.ok a) := ⟨a,rfl⟩
@[simp] theorem returns_error (e : Exn) : ¬ Returns (.error e : Except Exn α) := fun returned => by
  obtain ⟨a,never⟩ := returned
  cases never

theorem returns_seq {rest : Prop} (later : ∀ a, x = .ok a → (Returns (f a) ↔ rest)) :
    Returns (x >>= f) ↔ Returns x ∧ rest := by
  cases x with
  | error e => exact iff_of_false (returns_error e) fun both => returns_error e both.1
  | ok a => exact (later a rfl).trans (and_iff_right (returns_ok a)).symm

theorem returns_step {a : α} (done : x = .ok a) : Returns (x >>= f) ↔ Returns (f a) := by
  rw [done]
  rfl

theorem returns_map (f : α → β) : Returns (x.map f) ↔ Returns x := by
  cases x with
  | error e => exact iff_of_false (returns_error e) (returns_error e)
  | ok a => exact iff_of_true (returns_ok _) (returns_ok a)

theorem returns_each {f : α → Except Exn β} (xs : List α) : Returns (xs.mapM f) ↔ ∀ x ∈ xs, Returns (f x) := by
  induction xs with
  | nil => exact iff_of_true (returns_ok []) (fun _ never => by cases never)
  | cons x rest ih =>
    rw [List.mapM_cons,List.forall_mem_cons,← ih]
    refine returns_seq fun y _ => ?_
    exact (returns_seq fun ys _ => iff_true_intro (returns_ok _)).trans (and_iff_left trivial)

theorem each_length {f : α → Except Exn β} {xs : List α} {ys : List β} (mapped : xs.mapM f = .ok ys) : ys.length = xs.length := by
  induction xs generalizing ys with
  | nil =>
    cases mapped
    rfl
  | cons x rest ih =>
    rw [List.mapM_cons] at mapped
    cases first : f x with
    | error e =>
      rw [first] at mapped
      cases mapped
    | ok y =>
      cases later : rest.mapM f with
      | error e =>
        rw [first,later] at mapped
        cases mapped
      | ok others =>
        rw [first,later] at mapped
        cases mapped
        exact congrArg (·+1) (ih later)

end Outcomes

section Fields
variable {env : Environment}

def Fits (least most : Nat) (text : Option String) : Prop := ∀ t ∈ text, least ≤ t.length ∧ t.length ≤ most

def Known (env : Environment) (money : TypedMoney) : Prop := env.currency money.currencyCode = .ok ()

def SameKind (a b : TypedMoney) : Prop :=
  a.preciseAmount.isSome = b.preciseAmount.isSome ∧ a.currencyCode = b.currencyCode ∧ a.fractionDigits = b.fractionDigits

def optionalText : FieldValue → Prop
  | .null => True
  | .text _ => True
  | _ => False

def optionalBool : FieldValue → Prop
  | .null => True
  | .boolean _ => True
  | _ => False

theorem text_checked (least most : Nat) (text : Option String) : Returns (checkText least most text) ↔ Fits least most text := by
  cases text with
  | none => exact iff_of_true (returns_ok ()) (fun _ never => by cases never)
  | some text =>
    unfold checkText
    dsimp only
    split
    · rename_i fits
      exact iff_of_true (returns_ok ()) fun t same => by cases same; exact fits
    · rename_i fits
      exact iff_of_false (returns_error _) fun all => fits (all text rfl)

theorem string_checked (value : FieldValue) : Returns (checkString value) ↔ optionalText value := by
  cases value <;> simp [checkString,optionalText]

theorem bool_checked (value : FieldValue) : Returns (checkBool value) ↔ optionalBool value := by
  cases value <;> simp [checkBool,optionalBool]

theorem quantity_checked (quantity : Int) : Returns (checkQuantity quantity) ↔ quantity < 4294967295 ∧ 0 < quantity := by
  unfold checkQuantity
  split
  · exact iff_of_true (returns_ok ()) ‹_›
  · exact iff_of_false (returns_error _) ‹_›

theorem money_printed (money : TypedMoney) : Returns (typedMoneyToString env money) ↔ Known env money := by
  unfold typedMoneyToString Known
  cases known : env.currency money.currencyCode with
  | error e => exact iff_of_false (returns_error e) (fun never => by cases never)
  | ok done =>
    refine iff_of_true ?_ rfl
    change Returns (if money.fractionDigits = 0 then _ else _)
    split
    · exact returns_ok _
    · exact returns_ok _

theorem money_added (a : TypedMoney) (b : Option TypedMoney) :
    Returns (typedMoneyAdd a b) ↔ ∀ money ∈ b, SameKind a money := by
  cases b with
  | none => exact iff_of_true (returns_ok a) (fun _ never => by cases never)
  | some b =>
    unfold typedMoneyAdd
    dsimp only
    split
    · rename_i same
      refine iff_of_true ?_ fun money equal => by cases equal; exact same
      split
      · exact returns_ok _
      · exact returns_ok _
    · rename_i other
      exact iff_of_false (returns_error _) fun same => other (same b rfl)

theorem sum_kind {a sum : TypedMoney} {b : Option TypedMoney} (added : typedMoneyAdd a b = .ok sum) : SameKind a sum := by
  cases b with
  | none =>
    cases added
    exact ⟨rfl,rfl,rfl⟩
  | some b =>
    unfold typedMoneyAdd at added
    dsimp only at added
    split at added
    · split at added
      · rename_i amount precise
        cases added
        exact ⟨by rw [precise]; rfl,rfl,rfl⟩
      · cases added
        exact ⟨rfl,rfl,rfl⟩
    · cases added

def brandOf (attributes : List Attribute) : FieldValue :=
  match attributes.find? (·.name = "brand-text") with
  | some ⟨_,.dict _ label⟩ => label
  | _ => .null

structure LineFits (env : Environment) (lineItem : LegacyOrders.LineItem) : Prop where
  brand : ∃ attributes, lineItem.attributes = some attributes ∧ optionalText (brandOf attributes)
  state : ∃ name rest, lineItem.state = ⟨some name⟩::rest ∧ Fits 0 255 (unLs name)
  price : Known env lineItem.price.value
  title : Fits 1 255 (unLs (some lineItem.name))
  quantity : lineItem.quantity < 4294967295 ∧ 0 < lineItem.quantity

def AddressFits (address : Address) : Prop :=
  Fits 0 255 address.firstName ∧ Fits 0 255 address.lastName ∧
    Fits 0 255 (some (printed address.streetNumber++" "++printed address.streetName)) ∧
    Fits 0 255 address.additionalStreetInfo ∧ Fits 0 255 address.city ∧ Fits 0 255 address.state ∧ Fits 0 64 address.postalCode

theorem state_named (lineItem : LegacyOrders.LineItem) {name : Option LocalizedString} :
    stateName lineItem = .ok name ↔ ∃ rest, lineItem.state = ⟨some name⟩::rest := by
  unfold stateName
  rcases lineItem.state with _ | ⟨⟨_ | known⟩,rest⟩
  · exact ⟨fun never => (by cases never),fun some_ => (by obtain ⟨_,never⟩ := some_; cases never)⟩
  · exact ⟨fun never => (by cases never),fun some_ => (by obtain ⟨_,never⟩ := some_; cases never)⟩
  · constructor
    · intro same
      cases same
      exact ⟨rest,rfl⟩
    · intro some_
      obtain ⟨_,same⟩ := some_
      cases same
      rfl

theorem brand_checked {lineItem : LegacyOrders.LineItem} {attributes : List Attribute} (listed : lineItem.attributes = some attributes) :
    ∃ organization, getLineItemAttribute lineItem "brand-text" = .ok organization ∧
      (optionalText organization ↔ optionalText (brandOf attributes)) := by
  unfold getLineItemAttribute lineItemAttribute brandOf iterate
  rw [listed]
  refine ⟨_,rfl,?_⟩
  cases attributes.find? (·.name = "brand-text") with
  | none => exact .rfl
  | some first =>
    obtain ⟨name,value⟩ := first
    cases value <;> simp [optionalText]

theorem attribute_read {lineItem : LegacyOrders.LineItem} {attributes : List Attribute} (listed : lineItem.attributes = some attributes) (key : String) :
    ∃ value, getAttributeValue lineItem.attributes key = .ok value := by
  rw [listed]
  exact ⟨_,rfl⟩

theorem line_converted_iff (lineItem : LegacyOrders.LineItem) (orderId : String) :
    Returns (convertLineItem env lineItem orderId) ↔ LineFits env lineItem := by
  cases listed : lineItem.attributes with
  | none =>
    refine iff_of_false ?_ fun fits => ?_
    · unfold convertLineItem getLineItemAttribute lineItemAttribute iterate
      rw [listed]
      exact returns_error _
    · obtain ⟨_,same,_⟩ := fits.brand
      cases listed.symm.trans same
  | some attributes =>
    obtain ⟨organization,organized,brand⟩ := brand_checked listed
    obtain ⟨expires,expired⟩ := attribute_read listed "verification-upgrade-deadline"
    obtain ⟨mode,moded⟩ := attribute_read listed "mode"
    unfold convertLineItem
    refine (returns_step organized).trans ?_
    cases named : stateName lineItem with
    | error e =>
      refine iff_of_false (returns_error e) fun fits => ?_
      obtain ⟨name,rest,first,_⟩ := fits.state
      cases named.symm.trans ((state_named lineItem).mpr ⟨rest,first⟩)
    | ok name =>
      refine (returns_step rfl).trans (Iff.trans (returns_seq fun price _ => (returns_step expired).trans
        ((returns_step moded).trans (returns_seq fun _ _ => returns_seq fun _ _ => returns_seq fun _ _ =>
          returns_seq fun _ _ => iff_true_intro (returns_ok _)))) ?_)
      rw [money_printed,text_checked,quantity_checked,string_checked,text_checked,brand]
      obtain ⟨rest,first⟩ := (state_named lineItem).mp named
      constructor
      · intro all
        obtain ⟨price,title,quantity,brand,status,_⟩ := all
        exact ⟨⟨attributes,listed,brand⟩,⟨name,rest,first,status⟩,price,title,quantity⟩
      · intro fits
        obtain ⟨_,same,brand⟩ := fits.brand
        cases listed.symm.trans same
        obtain ⟨_,_,same,status⟩ := fits.state
        cases first.symm.trans same
        exact ⟨fits.price,fits.title,fits.quantity,brand,status,trivial⟩

theorem address_converted_iff (address : Option Address) :
    Returns (convertAddress address) ↔ ∀ given ∈ address, AddressFits given := by
  cases address with
  | none => exact iff_of_true (returns_ok none) (fun _ never => by cases never)
  | some address =>
    unfold convertAddress
    refine Iff.trans (returns_seq fun _ _ => returns_seq fun _ _ => returns_seq fun _ _ => returns_seq fun _ _ =>
      returns_seq fun _ _ => returns_seq fun _ _ => returns_seq fun _ _ => iff_true_intro (returns_ok _)) ?_
    simp only [text_checked,and_true]
    exact ⟨fun fits given same => by cases same; exact fits,fun all => all address rfl⟩

theorem customer_converted_iff (customer : LegacyOrders.Customer) :
    Returns (convertCustomer customer) ↔ Fits 1 150 (some customer.lmsUserName) ∧ Fits 0 254 (some customer.email) := by
  unfold convertCustomer
  refine Iff.trans (returns_seq fun _ _ => returns_seq fun _ _ => iff_true_intro (returns_ok _)) ?_
  simp only [text_checked,and_true]

def RunIdIsText (lineItem : LegacyOrders.LineItem) : Prop :=
  ∀ value ∈ attributeDict lineItem.attributes "courserun-id", value.truthy = true → ∃ text, value = .text text

theorem prod_id_text (lineItem : LegacyOrders.LineItem) :
    (∃ text, convertLineItemProdId lineItem = .text text) ↔ RunIdIsText lineItem := by
  unfold convertLineItemProdId RunIdIsText
  cases attributeDict lineItem.attributes "courserun-id" with
  | none => exact iff_of_true ⟨_,rfl⟩ (fun _ never => by cases never)
  | some value =>
    dsimp only
    split
    · rename_i truthy
      exact ⟨fun text other same _ => (by cases same; exact text),fun all => all value rfl truthy⟩
    · rename_i falsy
      exact iff_of_true ⟨_,rfl⟩ fun other same truthy => by cases same; exact absurd truthy falsy

theorem joined_iff (values : List FieldValue) : Returns (joinTexts values) ↔ ∀ value ∈ values, ∃ text, value = .text text := by
  unfold joinTexts
  refine Iff.trans (returns_seq fun _ _ => iff_true_intro (returns_ok _)) ?_
  rw [and_true,returns_each]
  refine forall₂_congr fun value _ => ?_
  cases value <;> simp

theorem payment_method_iff (paymentInfo : Option (List (Option PaymentMethodInfo))) :
    Returns (lastPaymentMethod paymentInfo) ↔ ∀ payment ∈ (paymentInfo.getD []).getLast?, payment ≠ none := by
  unfold lastPaymentMethod
  cases (paymentInfo.getD []).getLast? with
  | none => exact iff_of_true (returns_ok none) (fun _ never => by cases never)
  | some payment => cases payment <;> simp

theorem payment_info_iff (paymentInfo : Option (List (Option PaymentMethodInfo))) :
    Returns (convertPaymentInfo paymentInfo) ↔ Returns (lastPaymentMethod paymentInfo) := by
  unfold convertPaymentInfo
  refine Iff.trans (returns_seq fun info _ => iff_true_intro ?_) (and_true _).to_iff
  cases info <;> exact returns_ok _

end Fields

section Orders
variable {env : Environment}

structure OrderFits (env : Environment) (order : LegacyOrders.Order) (customer : LegacyOrders.Customer) : Prop where
  lines : ∀ lineItem ∈ order.lineItems, LineFits env lineItem ∧ RunIdIsText lineItem
  payment : ∀ payment ∈ (order.paymentInfo.getD []).getLast?, payment ≠ none
  user : Fits 1 150 (some customer.lmsUserName) ∧ Fits 0 254 (some customer.email)
  address : ∀ given ∈ order.billingAddress, AddressFits given
  currency : Known env order.totalPrice ∧ Fits 1 12 (some order.totalPrice.currencyCode)
  discounted : (calculateTotalDiscountOnOrder order).centAmount ≠ 0 → order.totalPrice.preciseAmount = none
  taxed : ∃ taxedPrice, order.taxedPrice = some taxedPrice ∧ ∀ totalTax ∈ taxedPrice.totalTax, SameKind order.totalPrice totalTax
  number : Fits 1 128 order.orderNumber
  mobile : ∀ value ∈ order.custom.bind (·.orderMobileOrder), optionalBool value

theorem discount_added (order : LegacyOrders.Order) :
    Returns (typedMoneyAdd order.totalPrice (if (calculateTotalDiscountOnOrder order).centAmount ≠ 0 then
      some (calculateTotalDiscountOnOrder order) else none)) ↔
      ((calculateTotalDiscountOnOrder order).centAmount ≠ 0 → order.totalPrice.preciseAmount = none) := by
  rw [money_added]
  split
  · rename_i discounted
    constructor
    · intro same _
      exact Option.isSome_eq_false_iff.mp (same _ rfl).1 |> Option.isNone_iff_eq_none.mp
    · intro centPrecision money same
      cases same
      exact ⟨by rw [centPrecision discounted]; rfl,rfl,rfl⟩
  · rename_i undiscounted
    exact iff_of_true (fun _ never => by cases never) fun discounted => absurd discounted undiscounted

theorem kind_same {a b money : TypedMoney} (same : SameKind a b) : SameKind b money ↔ SameKind a money := by
  obtain ⟨type,code,digits⟩ := same
  unfold SameKind
  rw [type,code,digits]

theorem total_iff (order : LegacyOrders.Order) : Returns (totalBeforeDiscounts order) ↔
    ((calculateTotalDiscountOnOrder order).centAmount ≠ 0 → order.totalPrice.preciseAmount = none) ∧
    ∃ taxedPrice, order.taxedPrice = some taxedPrice ∧ ∀ totalTax ∈ taxedPrice.totalTax, SameKind order.totalPrice totalTax := by
  unfold totalBeforeDiscounts
  refine Iff.trans (returns_seq fun undiscounted added => ?_) (and_congr_left' (discount_added order))
  unfold taxOf
  cases order.taxedPrice with
  | none => exact iff_of_false (returns_error _) fun some_ => by obtain ⟨_,never,_⟩ := some_; cases never
  | some taxedPrice =>
    refine (returns_step rfl).trans ((money_added undiscounted taxedPrice.totalTax).trans ?_)
    constructor
    · exact fun all => ⟨taxedPrice,rfl,fun totalTax taxed => (kind_same (sum_kind added)).mp (all totalTax taxed)⟩
    · intro some_ totalTax taxed
      obtain ⟨_,same,all⟩ := some_
      cases same
      exact (kind_same (sum_kind added)).mpr (all totalTax taxed)

theorem total_currency {order : LegacyOrders.Order} {total : TypedMoney} (counted : totalBeforeDiscounts order = .ok total) :
    total.currencyCode = order.totalPrice.currencyCode := by
  unfold totalBeforeDiscounts at counted
  cases added : typedMoneyAdd order.totalPrice (if (calculateTotalDiscountOnOrder order).centAmount ≠ 0 then
      some (calculateTotalDiscountOnOrder order) else none) with
  | error e =>
    simp only [added] at counted
    cases counted
  | ok undiscounted =>
    simp only [added] at counted
    cases taxed : taxOf order with
    | error e =>
      rw [taxed] at counted
      cases counted
    | ok totalTax =>
      rw [taxed] at counted
      exact (sum_kind counted).2.1.symm.trans (sum_kind added).2.1.symm

theorem order_converted_iff (order : LegacyOrders.Order) (customer : LegacyOrders.Customer) :
    Returns (orderFromCommercetools env order customer) ↔ OrderFits env order customer := by
  unfold orderFromCommercetools
  have total : ∀ total, totalBeforeDiscounts order = .ok total →
      (Returns (typedMoneyToString env total) ↔ Known env order.totalPrice) := by
    intro total counted
    rw [money_printed]
    unfold Known
    rw [total_currency counted]
  refine Iff.trans (returns_seq fun _ _ => returns_seq fun _ _ => returns_seq fun _ _ => returns_seq fun _ _ => returns_seq fun _ _ =>
    returns_seq fun _ _ => returns_seq fun _ _ => returns_seq fun value counted => Iff.trans (returns_seq fun _ _ => returns_seq fun _ _ =>
      returns_seq fun _ _ => returns_seq fun _ _ => returns_seq fun _ _ => returns_seq fun _ _ => iff_true_intro (returns_ok _))
      (and_congr_left' (total value counted))) ?_
  have discount : Known env order.totalPrice → Returns (discountText env order) := by
    intro known
    unfold discountText
    cases order.discountOnTotalPrice with
    | none => exact returns_ok none
    | some amount => exact (returns_map some).mpr ((money_printed _).mpr known)
  have ids : (∀ value ∈ order.lineItems.map convertLineItemProdId, ∃ text, value = .text text) ↔
      ∀ lineItem ∈ order.lineItems, RunIdIsText lineItem := by
    rw [List.forall_mem_map]
    exact forall₂_congr fun lineItem _ => prod_id_text lineItem
  have mobile : optionalBool ((order.custom.bind (·.orderMobileOrder)).getD (.boolean false)) ↔
      ∀ value ∈ order.custom.bind (·.orderMobileOrder), optionalBool value := by
    cases order.custom.bind (·.orderMobileOrder) with
    | none => exact iff_of_true trivial (fun _ never => by cases never)
    | some value => exact ⟨fun fits other same => (by cases same; exact fits),fun all => all value rfl⟩
  have status : Fits 0 100 (some order.orderState.value) := by
    intro text same
    cases same
    cases order.orderState <;> decide
  rw [payment_info_iff,payment_method_iff,customer_converted_iff,returns_each,address_converted_iff,money_printed,joined_iff,ids,
    total_iff,text_checked,text_checked,bool_checked,mobile,text_checked]
  simp only [line_converted_iff]
  constructor
  · intro all
    obtain ⟨payment,user,lines,address,known,texts,_,⟨discounted,taxed⟩,_,_,number,code,mobile,_⟩ := all
    exact ⟨fun lineItem member => ⟨lines lineItem member,texts lineItem member⟩,payment,user,address,⟨known,code⟩,discounted,taxed,
      number,mobile⟩
  · intro fits
    exact ⟨fits.payment,fits.user,fun lineItem member => (fits.lines lineItem member).1,fits.address,fits.currency.1,
      fun lineItem member => (fits.lines lineItem member).2,discount fits.currency.1,⟨fits.discounted,fits.taxed⟩,fits.currency.1,
      fits.payment,fits.number,fits.currency.2,fits.mobile,status,trivial⟩

-- A page of the history is appended in full exactly when every one of its orders
-- has what the conversion reaches for.
theorem appended_iff_returned (page : PaginatedResult LegacyOrders.Order) (customer : LegacyOrders.Customer)
    (orderData : List (PaginatedResult LegacyOrder)) :
    (∃ converted, runFilter env true (.ok (page,customer)) orderData = .ok (orderData++[converted]) ∧
      converted.results.length = page.results.length) ↔
    Returns (page.results.mapM fun order => orderFromCommercetools env order customer) := by
  unfold runFilter
  cases mapped : page.results.mapM fun order => orderFromCommercetools env order customer with
  | error e =>
    refine iff_of_false ?_ (returns_error e)
    simp only [if_true,bind,Except.bind,mapped]
    intro appended
    obtain ⟨converted,same,_⟩ := appended
    split at same
    · have shorter := congrArg (fun r => r.toOption.map List.length) same
      simp [Except.toOption] at shorter
    · cases same
  | ok results =>
    refine iff_of_true ⟨page.rebuild results,?_,each_length mapped⟩ (returns_ok results)
    simp only [if_true,bind,Except.bind,mapped]
    rfl

theorem returned_iff_fits (orders : List LegacyOrders.Order) (customer : LegacyOrders.Customer) :
    Returns (orders.mapM fun order => orderFromCommercetools env order customer) ↔
      ∀ order ∈ orders, OrderFits env order customer :=
  (returns_each _).trans (forall₂_congr fun order _ => order_converted_iff order customer)

theorem page_appended_iff (page : PaginatedResult LegacyOrders.Order) (customer : LegacyOrders.Customer)
    (orderData : List (PaginatedResult LegacyOrder)) :
    (∃ converted, runFilter env true (.ok (page,customer)) orderData = .ok (orderData++[converted]) ∧
      converted.results.length = page.results.length) ↔
    ∀ order ∈ page.results, OrderFits env order customer :=
  (appended_iff_returned page customer orderData).trans (returned_iff_fits page.results customer)

theorem untaxed_lost {page : PaginatedResult LegacyOrders.Order} (listed : order ∈ page.results) (untaxed : order.taxedPrice = none)
    (customer : LegacyOrders.Customer) (orderData : List (PaginatedResult LegacyOrder)) :
    ¬ ∃ converted, runFilter env true (.ok (page,customer)) orderData = .ok (orderData++[converted]) ∧
      converted.results.length = page.results.length := by
  intro appended
  have returned := (appended_iff_returned page customer orderData).mp appended
  obtain ⟨_,taxed,_⟩ := ((returned_iff_fits page.results customer).mp returned order listed).taxed
  cases untaxed.symm.trans taxed

end Orders

section Mobile

def shop : Environment := ⟨"https://mc/orders","https://lms",fun _ => .ok (),fun total _ => toString total⟩

def ada : LegacyOrders.Customer := ⟨"ada@example.org","ada"⟩

def course : LegacyOrders.LineItem :=
  ⟨"line-item","product",[("en-US","Analytical Engines")],1,⟨⟨4900,"USD",2,none⟩,none⟩,[],
    [⟨some (some [("en-US","Fulfillment Pending")])⟩],some [⟨"mode",.text "verified"⟩]⟩

def webOrder : LegacyOrders.Order :=
  ⟨"web",1750000000,some "2U-2025000001",.complete,[course],⟨4900,"USD",2,none⟩,some ⟨some ⟨0,"USD",2,none⟩⟩,none,none,
    some [some ⟨some "stripe_edx",some [("en","Stripe")]⟩],none,none,none⟩

-- Its cart had TaxMode.DISABLED.
def mobileOrder : LegacyOrders.Order :=
  {webOrder with
    id := "mobile", orderNumber := some "2U-2025000002", taxedPrice := none
    paymentInfo := some [some ⟨some "android_iap_edx",some [("en","Android In-app Purchase")]⟩]
    custom := some ⟨some (.boolean true)⟩}

theorem mobile_order_hides_history :
    ((runFilter shop true (.ok (⟨[webOrder],1,0⟩,ada)) []).toOption.map fun orderData => orderData.map (·.results.length)) =
      some [1] ∧
    (runFilter shop true (.ok (⟨[webOrder,mobileOrder],2,0⟩,ada)) [] matches .error .attributeError) = true ∧
    ¬ ∃ converted, runFilter shop true (.ok (⟨[webOrder,mobileOrder],2,0⟩,ada)) [] = .ok ([]++[converted]) ∧
      converted.results.length = 2 :=
  ⟨by decide +kernel,by decide +kernel,untaxed_lost (List.mem_cons_of_mem _ List.mem_cons_self) rfl ada []⟩

end Mobile

end OrderPages
