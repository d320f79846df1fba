import CommerceCoordinator.StoreQueries

open Commercetools CallTree StoreQueries

-- Who may still use a first time discount.
namespace DiscountEligibility

variable {N : Type} {code customerId customerEmail : String}

def ofCustomer (customerId customerEmail : String) (order : PastOrder) : Bool :=
  if customerId ≠ "" then order.customerId = some customerId else order.customerEmail = some customerEmail

def history (shop : Shop N) (customerId customerEmail : String) : List PastOrder :=
  shop.orders.filter fun order => ofCustomer customerId customerEmail order && order.orderState = .complete

def carriesFirst (code : String) (order : PastOrder) : Bool := order.discountCodes.head? = some (some code)

def firstPage (orders : List PastOrder) : List PastOrder := (orders.filter (·.discountCodes ≠ [])).take queryLimit

section Scan

theorem firstPage_subset {orders : List PastOrder} {order : PastOrder} (member : order ∈ firstPage orders) : order ∈ orders :=
  List.mem_of_mem_filter (List.mem_of_mem_take member)

theorem firstPage_discounted {orders : List PastOrder} {order : PastOrder} (member : order ∈ firstPage orders) :
    order.discountCodes ≠ [] := by
  have discounted := (List.mem_filter.mp (List.mem_of_mem_take member)).2
  simpa using discounted

theorem scan_result {orders : List PastOrder} (discounted : ∀ order ∈ orders, order.discountCodes ≠ [])
    (serve : (r : Request) → Nat → Response N r × Nat) (k : Nat) :
    (notUsedFirst code orders).exec serve k = (.ok (!orders.any (carriesFirst code)),k) := by
  induction orders with
  | nil => rfl
  | cons order rest ih =>
    have later := ih fun other member => discounted other (List.mem_cons_of_mem _ member)
    unfold notUsedFirst
    rw [List.any_cons]
    cases codes : order.discountCodes with
    | nil => exact absurd codes (discounted order List.mem_cons_self)
    | cons first others =>
      dsimp only
      by_cases same : first = some code
      · rw [if_pos same]
        simp [carriesFirst,codes,same]
      · rw [if_neg same,later]
        simp [carriesFirst,codes,same]

end Scan

section Eligible
variable (shop : Shop N)

theorem discounted_found : (shop.orders.filter fun order => (discountedOrders customerId customerEmail).all (·.holds order)) =
    (history shop customerId customerEmail).filter (·.discountCodes ≠ []) := by
  unfold history
  rw [List.filter_filter]
  refine List.filter_congr fun order _ => ?_
  unfold discountedOrders ofCustomer
  by_cases named : customerId = ""
  all_goals
    simp only [OrderCondition.holds,List.all_cons,List.all_nil,Bool.and_true]
    grind

theorem eligible_result (enableRetries reraise : Bool) (named : customerId ≠ "" ∨ customerEmail ≠ "") (k : Nat) :
    (isFirstTimeDiscountEligible enableRetries code customerId customerEmail reraise).exec (serve shop) k =
      (.ok (!(firstPage (history shop customerId customerEmail)).any (carriesFirst code)),k) := by
  have unnamed : ¬(customerId = "" ∧ customerEmail = "") := by
    rintro ⟨noId,noEmail⟩
    exact named.elim (· noId) (· noEmail)
  refine exec_answered shop enableRetries ?_
  rw [if_neg unnamed]
  change (if (shop.orders.filter fun order => (discountedOrders customerId customerEmail).all (·.holds order)).length < 1
    then Prog.pure true else notUsedFirst code
      ((shop.orders.filter fun order => (discountedOrders customerId customerEmail).all (·.holds order)).take queryLimit)).exec
        (serve shop) k = _
  rw [discounted_found]
  split
  · rename_i few
    have nothing : (history shop customerId customerEmail).filter (·.discountCodes ≠ []) = [] :=
      List.length_eq_zero_iff.mp (by omega)
    unfold firstPage
    rw [nothing]
    rfl
  · exact scan_result (fun order member => firstPage_discounted member) _ k

theorem eligible_unused_iff (enableRetries reraise : Bool) (named : customerId ≠ "" ∨ customerEmail ≠ "") (k : Nat) :
    (((isFirstTimeDiscountEligible enableRetries code customerId customerEmail reraise).exec (serve shop) k).1 = .ok true ↔
      ∀ order ∈ history shop customerId customerEmail, some code ∉ order.discountCodes) ↔
    ((∃ order ∈ history shop customerId customerEmail, some code ∈ order.discountCodes) →
      ∃ order ∈ firstPage (history shop customerId customerEmail), order.discountCodes.head? = some (some code)) := by
  have result : ((isFirstTimeDiscountEligible enableRetries code customerId customerEmail reraise).exec (serve shop) k).1 = .ok true ↔
      ¬∃ order ∈ firstPage (history shop customerId customerEmail), order.discountCodes.head? = some (some code) := by
    rw [eligible_result shop enableRetries reraise named]
    simp [carriesFirst]
  have noticed : (∃ order ∈ firstPage (history shop customerId customerEmail), order.discountCodes.head? = some (some code)) →
      ∃ order ∈ history shop customerId customerEmail, some code ∈ order.discountCodes := by
    rintro ⟨order,member,first⟩
    exact ⟨order,firstPage_subset member,List.mem_of_mem_head? first⟩
  rw [result]
  constructor
  · intro exact used
    by_contra unnoticed
    obtain ⟨order,member,carried⟩ := used
    exact exact.mp unnoticed order member carried
  · intro noticing
    constructor
    · intro unnoticed order member carried
      exact unnoticed (noticing ⟨order,member,carried⟩)
    · intro unused found
      obtain ⟨order,member,carried⟩ := noticed found
      exact unused order member carried

end Eligible

section Welcome

def welcomeShop (discountCodes : List (Option String)) : Shop N where
  orders := [⟨some "customer",some "learner@example.com",.complete,discountCodes⟩]
  discountCodes := []
  customers := [⟨"customer","7"⟩]
  search := fun _ _ => []
  clock := fun _ => 0

theorem first_code_noticed :
    ((isFirstTimeDiscountEligible true "WELCOME" "customer" "" true).exec
      (serve (welcomeShop [some "WELCOME",some "SPRING"] : Shop Int)) 0).1 = .ok true ↔
    ∀ order ∈ history (welcomeShop [some "WELCOME",some "SPRING"] : Shop Int) "customer" "", some "WELCOME" ∉ order.discountCodes :=
  (eligible_unused_iff _ true true (.inl (by decide)) 0).mpr fun _ => ⟨_,List.mem_singleton_self _,rfl⟩

theorem second_code_missed :
    ¬(((isFirstTimeDiscountEligible true "WELCOME" "customer" "" true).exec
        (serve (welcomeShop [some "SPRING",some "WELCOME"] : Shop Int)) 0).1 = .ok true ↔
      ∀ order ∈ history (welcomeShop [some "SPRING",some "WELCOME"] : Shop Int) "customer" "",
        some "WELCOME" ∉ order.discountCodes) := by
  intro exact
  have eligible : ((isFirstTimeDiscountEligible true "WELCOME" "customer" "" true).exec
      (serve (welcomeShop [some "SPRING",some "WELCOME"] : Shop Int)) 0).1 = .ok true := by decide +kernel
  exact exact.mp eligible _ (List.mem_singleton_self _) (by decide)

end Welcome

end DiscountEligibility
