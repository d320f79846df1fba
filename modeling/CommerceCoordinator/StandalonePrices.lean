import Mathlib.Data.List.Dedup
import CommerceCoordinator.PaymentTransactions
import CommerceCoordinator.ProgramOffers
import CommerceCoordinator.QuotedText

open Commercetools QuotedText
open ProgramOffers (CartDiscount ProgramOffer CT_ABSOLUTE_DISCOUNT_TYPE getProgramOffer)

-- The prices of a list of SKUs and the price of a program, over a service that reads a
-- where clause.
namespace StandalonePrices

structure Price where
  sku : String
  value : CentPrecisionMoney

-- The prices that a where clause selects; none where it is refused.
abbrev Reader := String → Option (Price → Bool)

section Client

def pageLimit : Nat := 20

def makeRequest (read : Reader) (prices : List Price) (clause : String) : Option (List Price) :=
  if clause = "" then some (prices.take pageLimit)
  else (read clause).map fun selected => (prices.filter selected).take pageLimit

def whereClause (skus : List String) : String := " or ".intercalate (skus.map fun sku => "sku=\""++sku++"\"")

def getStandalonePricesForSkus (request : String → Option (List Price)) (skus : List String) : List Price :=
  match request (whereClause skus) with
  | some response => response
  | none => []

def getStandalonePriceForSku (request : String → Option (List Price)) (sku : String) : Except Exn CentPrecisionMoney :=
  match getStandalonePricesForSkus request [sku] with
  | [] => .error .valueError
  | price::_ => .ok price.value

end Client

section View

structure ProgramVariant where
  entitlementSku : String
  variantKey : String

-- One alternative of the expression: characters of a class, a plus and the key, which
-- ends with the line.
def courseKeyBehind (accepted : Char → Bool) (variantKey : List Char) : Option (List Char) :=
  match variantKey.takeWhile accepted,variantKey.dropWhile accepted with
  | _::_,'+'::rest =>
    match rest.takeWhile (· != '\n') with
    | [] => none
    | courseKey => some courseKey
  | _,_ => none

def extractCourseKeyFromVariantKey (variantKey : String) : String :=
  let hexadecimal := fun char : Char => char = '-' || '0' ≤ char && char ≤ '9' || 'a' ≤ char && char ≤ 'f'
  let letter := fun char : Char => 'a' ≤ char && char ≤ 'z' || 'A' ≤ char && char ≤ 'Z'
  match (courseKeyBehind hexadecimal variantKey.toList).or (courseKeyBehind letter variantKey.toList) with
  | some courseKey => String.ofList courseKey
  | none => ""

def getProgramEntitlementsToBePurchased (programVariants : List ProgramVariant) (userEnrollableCourseKeys : List String) :
    List String :=
  (programVariants.filter fun variant =>
    extractCourseKeyFromVariantKey variant.variantKey ∈ userEnrollableCourseKeys).map (·.entitlementSku)

-- An absolute discount is exact, a relative one is a float.
def calculateDiscountedPrice (programOffer : Option ProgramOffer) (programPrice : Int) : ℚ :=
  match programOffer with
  | none => programPrice
  | some offer =>
    let float := PaymentTransactions.float
    if offer.discountType = some CT_ABSOLUTE_DISCOUNT_TYPE then max (programPrice-offer.discountValueInCents) 0
    else max (float (float programPrice-float (programPrice*offer.discountValueInCents/10000))) 0

def centsToDollars (centAmount : ℚ) : ℚ := PaymentTransactions.float (centAmount/100)

inductive Response where
  | badRequest (message : String)
  | notFound (message : String)
  | serverError (message : String)
  | price (totalInclTaxExclDiscounts totalInclTax : ℚ) (currency : String)

def totalCentAmount (prices : List Price) : Int := (prices.map (·.value.centAmount)).sum

-- `ProgramPriceView.get` from the variants and the offers that the client returns.
def get (request : String → Option (List Price)) (forUserMsg bundleKey : String) (userPurchasableCourseKeys : List String)
    (ctProgramVariants : List ProgramVariant) (ctBundleOffers : List CartDiscount) : Response :=
  if userPurchasableCourseKeys = [] then .badRequest ("No course keys provided "++forUserMsg)
  else if ctProgramVariants.length = 0 then .notFound ("No program variants found "++forUserMsg)
  else if ctBundleOffers.length = 0 then .serverError ("Failed to retrieve bundle offers "++forUserMsg++".")
  else
    match getProgramOffer ctBundleOffers bundleKey with
    | .error _ => .serverError "Unexpected error occurred"
    | .ok programOffer =>
      let purchasableEntitlementsSkus := getProgramEntitlementsToBePurchased ctProgramVariants userPurchasableCourseKeys
      match getStandalonePricesForSkus request purchasableEntitlementsSkus with
      | [] => .serverError ("No standalone prices found "++forUserMsg)
      | first::others =>
        let total := totalCentAmount (first::others)
        .price (centsToDollars total) (centsToDollars (calculateDiscountedPrice programOffer total)) first.value.currencyCode

theorem reported_total {request : String → Option (List Price)} {forUserMsg bundleKey : String} {keys : List String}
    {variants : List ProgramVariant} {offers : List CartDiscount} {total discounted : ℚ} {currency : String}
    (reported : get request forUserMsg bundleKey keys variants offers = .price total discounted currency) :
    total = centsToDollars (totalCentAmount
      (getStandalonePricesForSkus request (getProgramEntitlementsToBePurchased variants keys))) := by
  unfold get at reported
  split at reported
  · cases reported
  split at reported
  · cases reported
  split at reported
  · cases reported
  split at reported
  · cases reported
  · dsimp only at reported
    split at reported
    · cases reported
    · rename_i found
      rw [found]
      injection reported with same
      exact same.symm

end View

section Reading

def among (skus : List String) (price : Price) : Bool := price.sku ∈ skus

def escaped (value : String) : String := String.ofList (escape value.toList)

-- A disjunction of comparisons with quoted strings selects the prices of those strings;
-- of other clauses nothing is known.
def Documented (read : Reader) : Prop :=
  ∀ values : List String, values ≠ [] → read (whereClause (values.map escaped)) = some (among values)

def PlainSku (sku : String) : Prop := Plain sku.toList

def OnePrice (prices : List Price) : Prop := (prices.map (·.sku)).Nodup

structure PricesExact (read : Reader) (prices : List Price) (skus : List String) : Prop where
  returned : (getStandalonePricesForSkus (makeRequest read prices) skus).Perm (prices.filter (among skus))
  total : ∀ forUserMsg bundleKey keys variants offers total discounted currency,
    getProgramEntitlementsToBePurchased variants keys = skus →
    get (makeRequest read prices) forUserMsg bundleKey keys variants offers = .price total discounted currency →
    total = centsToDollars (totalCentAmount (prices.filter (among skus)))

variable {read : Reader} {prices : List Price} {skus : List String}

theorem exact_of_returned (returned : (getStandalonePricesForSkus (makeRequest read prices) skus).Perm
    (prices.filter (among skus))) : PricesExact read prices skus := by
  refine ⟨returned,fun forUserMsg bundleKey keys variants offers total discounted currency same reported => ?_⟩
  have sums : totalCentAmount (getStandalonePricesForSkus (makeRequest read prices) skus) =
      totalCentAmount (prices.filter (among skus)) := (returned.map _).sum_eq
  rw [reported_total reported,same,sums]

theorem clause_text (skus : List String) :
    (whereClause skus).toList = anyOf ['s','k','u'] (skus.map String.toList) := by
  unfold whereClause anyOf
  rw [String.toList_intercalate,List.map_map,List.map_map]
  congr 1
  refine List.map_congr_left fun sku _ => ?_
  simp [comparison]

theorem clause_nonempty (nonempty : skus ≠ []) : whereClause skus ≠ "" := by
  intro empty
  have short := anyOf_length ['s','k','u'] (skus.map String.toList)
  rw [← clause_text,empty] at short
  exact nonempty (by simpa using short)

theorem escaped_plain {sku : String} (plain : PlainSku sku) : escaped sku = sku := by
  rw [escaped,escape_plain plain,String.ofList_toList]

theorem plain_read (documented : Documented read) (nonempty : skus ≠ []) (plain : ∀ sku ∈ skus, PlainSku sku) :
    read (whereClause skus) = some (among skus) := by
  have same : skus.map escaped = skus :=
    (List.map_congr_left fun sku member => escaped_plain (plain sku member)).trans skus.map_id
  have reads := documented skus nonempty
  rwa [same] at reads

theorem among_none (prices : List Price) : prices.filter (among []) = [] := by
  refine List.filter_eq_nil_iff.mpr fun price _ => ?_
  simp [among]

theorem none_returned : getStandalonePricesForSkus (makeRequest read prices) [] = prices.take pageLimit := rfl

theorem returned_of_refusal (nonempty : skus ≠ []) (refused : read (whereClause skus) = none) :
    getStandalonePricesForSkus (makeRequest read prices) skus = [] := by
  unfold getStandalonePricesForSkus makeRequest
  rw [if_neg (clause_nonempty nonempty),refused]
  rfl

theorem returned_of_read (prices : List Price) {selected : Price → Bool} (nonempty : skus ≠ [])
    (reads : read (whereClause skus) = some selected) :
    getStandalonePricesForSkus (makeRequest read prices) skus = (prices.filter selected).take pageLimit := by
  unfold getStandalonePricesForSkus makeRequest
  rw [if_neg (clause_nonempty nonempty),reads]
  rfl

theorem found_few (onePrice : OnePrice prices) (skus : List String) : (prices.filter (among skus)).length ≤ skus.dedup.length := by
  have distinct : ((prices.filter (among skus)).map (·.sku)).Nodup := onePrice.sublist (List.filter_sublist.map _)
  have inside : (prices.filter (among skus)).map (·.sku) ⊆ skus.dedup := by
    intro sku member
    obtain ⟨price,found,rfl⟩ := List.mem_map.mp member
    simpa [among] using (List.mem_filter.mp found).2
  have bounded := (List.subperm_of_subset distinct inside).length_le
  rwa [List.length_map] at bounded

theorem perm_take_iff {α : Type} {items : List α} {limit : Nat} : (items.take limit).Perm items ↔ items.length ≤ limit := by
  constructor
  · intro same
    have lengths := same.length_eq
    rw [List.length_take] at lengths
    omega
  · intro short
    rw [List.take_of_length_le short]

-- For plain SKUs the code fails on the empty list and beyond the first page.
theorem plain_exact_iff (documented : Documented read) (plain : ∀ sku ∈ skus, PlainSku sku) (prices : List Price) :
    PricesExact read prices skus ↔ (skus = [] → prices = []) ∧ (prices.filter (among skus)).length ≤ pageLimit := by
  by_cases nothing : skus = []
  · subst nothing
    constructor
    · intro exact
      have returned := exact.returned
      rw [none_returned,among_none,List.perm_nil] at returned
      refine ⟨fun _ => ?_,by simp [among_none]⟩
      simpa [pageLimit] using returned
    · rintro ⟨empty,_⟩
      refine exact_of_returned ?_
      rw [empty rfl]
      exact .nil
  · have returned := returned_of_read prices nothing (plain_read documented nothing plain)
    constructor
    · intro exact
      have same := exact.returned
      rw [returned] at same
      exact ⟨fun empty => absurd empty nothing,perm_take_iff.mp same⟩
    · rintro ⟨_,short⟩
      refine exact_of_returned ?_
      rw [returned]
      exact perm_take_iff.mpr short

theorem toList_mem {sku : String} : sku.toList ∈ skus.map String.toList ↔ sku ∈ skus := by
  simp [List.mem_map,String.toList_inj]

def disjunctionsOnly : Reader := fun clause =>
  (readAnyOf ['s','k','u'] clause.length clause.toList).map fun values price => price.sku.toList ∈ values

theorem disjunctions_documented : Documented disjunctionsOnly := by
  intro values nonempty
  have text : (whereClause (values.map escaped)).toList = anyOf ['s','k','u'] ((values.map String.toList).map escape) := by
    rw [clause_text,List.map_map,List.map_map]
    congr 1
    refine List.map_congr_left fun value _ => ?_
    simp [escaped]
  have enough : (values.map String.toList).length ≤ (whereClause (values.map escaped)).length := by
    have counted := anyOf_length ['s','k','u'] ((values.map String.toList).map escape)
    rw [← text,String.length_toList] at counted
    simpa using counted
  unfold disjunctionsOnly
  rw [text,readAnyOf_escape (by simpa using nonempty) enough,Option.map_some]
  refine congrArg some (funext fun price => ?_)
  simp only [toList_mem,among]

def priceOf (sku : String) : Price := ⟨sku,⟨100,"USD",some 2⟩⟩

theorem priceOf_among (sku : String) : [priceOf sku].filter (among skus) = if sku ∈ skus then [priceOf sku] else [] := by
  by_cases member : sku ∈ skus <;> simp [among,priceOf,member]

-- SKUs whose prices are always found stand for themselves between the quotes.
theorem plain_of_exact (nonempty : skus ≠ []) (exact : ∀ sku, PricesExact disjunctionsOnly [priceOf sku] skus) :
    ∀ sku ∈ skus, PlainSku sku := by
  cases reads : readAnyOf ['s','k','u'] (whereClause skus).length (whereClause skus).toList with
  | none =>
    intro sku member
    have refused : disjunctionsOnly (whereClause skus) = none := by rw [disjunctionsOnly,reads,Option.map_none]
    have returned := (exact sku).returned
    rw [returned_of_refusal nonempty refused,priceOf_among,if_pos member] at returned
    cases returned.length_eq
  | some values =>
    have selects : disjunctionsOnly (whereClause skus) = some fun price : Price => decide (price.sku.toList ∈ values) := by
      rw [disjunctionsOnly,reads,Option.map_some]
    have same : ∀ sku, sku ∈ skus ↔ sku.toList ∈ values := by
      intro sku
      have returned := (exact sku).returned
      rw [returned_of_read _ nonempty selects,priceOf_among] at returned
      by_cases member : sku ∈ skus <;> by_cases inside : sku.toList ∈ values
      · simp [member,inside]
      · simp [member,inside,priceOf] at returned
      · simp [member,inside,priceOf,pageLimit] at returned
      · simp [member,inside]
    rw [clause_text] at reads
    have plain := read_as_given (by decide) reads fun text => by
      have spelled := same (String.ofList text)
      rw [← toList_mem,String.toList_ofList] at spelled
      exact spelled
    exact fun sku member => plain sku.toList (List.mem_map_of_mem member)

theorem prices_exact_iff (skus : List String) :
    (∀ read, Documented read → (∀ sku ∈ skus, PlainSku sku) → ∀ prices, OnePrice prices →
      (PricesExact read prices skus ↔ (skus = [] → prices = []) ∧ (prices.filter (among skus)).length ≤ pageLimit)) ∧
    ((∀ read, Documented read → ∀ prices, OnePrice prices → PricesExact read prices skus) ↔
      skus ≠ [] ∧ (∀ sku ∈ skus, PlainSku sku) ∧ skus.dedup.length ≤ pageLimit) := by
  refine ⟨fun read documented plain prices _ => plain_exact_iff documented plain prices,?_⟩
  constructor
  · intro exact
    have nonempty : skus ≠ [] := by
      rintro rfl
      have single := exact disjunctionsOnly disjunctions_documented [priceOf ""] (by simp [OnePrice])
      have nothing := ((plain_exact_iff disjunctions_documented (by simp) _).mp single).1 rfl
      cases nothing
    have plain := plain_of_exact nonempty fun sku => exact _ disjunctions_documented _ (by simp [OnePrice])
    have named : (skus.dedup.map priceOf).map (·.sku) = skus.dedup := by
      rw [List.map_map]
      exact skus.dedup.map_id
    have all := exact disjunctionsOnly disjunctions_documented (skus.dedup.map priceOf) (by
      rw [OnePrice,named]
      exact skus.nodup_dedup)
    have short := ((plain_exact_iff disjunctions_documented plain _).mp all).2
    have whole : (skus.dedup.map priceOf).filter (among skus) = skus.dedup.map priceOf := by
      refine List.filter_eq_self.mpr fun price member => ?_
      obtain ⟨sku,inside,rfl⟩ := List.mem_map.mp member
      exact decide_eq_true (List.mem_dedup.mp inside)
    rw [whole,List.length_map] at short
    exact ⟨nonempty,plain,short⟩
  · rintro ⟨nonempty,plain,few⟩ read documented prices onePrice
    exact (plain_exact_iff documented plain prices).mpr
      ⟨fun empty => absurd empty nonempty,(found_few onePrice skus).trans few⟩

theorem two_skus_exact : PricesExact disjunctionsOnly [priceOf "A",priceOf "B",priceOf "C"] ["A","B"] :=
  (prices_exact_iff ["A","B"]).2.mpr ⟨by simp,by simp [PlainSku,Plain,isSpecial],by simp [pageLimit]⟩
    disjunctionsOnly disjunctions_documented _ (by unfold OnePrice; decide)

theorem no_skus_priced : Documented disjunctionsOnly ∧ OnePrice [priceOf "A"] ∧
    ¬PricesExact disjunctionsOnly [priceOf "A"] [] := by
  refine ⟨disjunctions_documented,by simp [OnePrice],fun exact => ?_⟩
  have returned := exact.returned
  rw [none_returned,among_none] at returned
  cases returned.length_eq

theorem single_price (documented : Documented read) (onePrice : OnePrice prices) {sku : String} (plain : PlainSku sku) :
    (∀ price ∈ prices, price.sku = sku → getStandalonePriceForSku (makeRequest read prices) sku = .ok price.value) ∧
    (sku ∉ prices.map (·.sku) → getStandalonePriceForSku (makeRequest read prices) sku = .error .valueError) := by
  have few := found_few onePrice [sku]
  have reads : read (whereClause [sku]) = some (among [sku]) := plain_read documented (by simp) (by simpa using plain)
  have returned := returned_of_read prices (by simp) reads
  have onPage : [sku].dedup.length ≤ pageLimit := by simp [pageLimit]
  rw [List.take_of_length_le (few.trans onPage)] at returned
  constructor
  · rintro price listed rfl
    have found : price ∈ prices.filter (among [price.sku]) := List.mem_filter.mpr ⟨listed,by simp [among]⟩
    obtain ⟨only,same⟩ := List.length_eq_one_iff.mp (Nat.le_antisymm few (List.length_pos_of_mem found))
    rw [same] at found
    obtain rfl := List.mem_singleton.mp found
    rw [getStandalonePriceForSku,returned,same]
  · intro missing
    have nothing : prices.filter (among [sku]) = [] := by
      refine List.filter_eq_nil_iff.mpr fun price listed same => missing ?_
      have named : price.sku = sku := by simpa [among] using same
      exact List.mem_map.mpr ⟨price,listed,named⟩
    rw [getStandalonePriceForSku,returned,nothing]

end Reading

end StandalonePrices
