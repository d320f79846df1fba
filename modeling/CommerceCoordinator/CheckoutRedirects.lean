import CommerceCoordinator.LineRevocation
import CommerceCoordinator.OrderNumber
import CommerceCoordinator.QueryStrings
import Mathlib.Data.List.TakeWhile

open CallTree QueryStrings
open Commercetools (ErrorCode Exn)
open LegacyOrders (Attribute FieldValue getAttributeValue)

-- The ways to the checkout: the views that send a browser on with a query string.
namespace CheckoutRedirects

inductive HttpResponse where
  | redirect (status : Nat) (url : String)
  | response (status : Nat) (data : String)
  deriving DecidableEq

def withQuery (url query : String) : String := if query = "" then url else url++"?"++query

-- What the receiver of a request for this URL is given as its query string.
def queryOf (url : String) : String := String.ofList (((url.toList.takeWhile (· ≠ '#')).dropWhile (· ≠ '?')).drop 1)

structure Plain (url : String) : Prop where
  query : '?' ∉ url.toList
  fragment : '#' ∉ url.toList

section Queries

theorem query_of {url query : String} (plain : Plain url) (inside : '#' ∉ query.toList) : queryOf (withQuery url query) = query := by
  have before : ∀ char ∈ url.toList, decide (char ≠ '?') = true := fun char member =>
    decide_eq_true fun same => plain.query (same ▸ member)
  unfold withQuery
  split
  · rename_i blank
    subst blank
    have shown : ∀ char ∈ url.toList.takeWhile (· ≠ '#'), decide (char ≠ '?') = true := fun char member =>
      before char ((List.takeWhile_subset _) member)
    have passed : (url.toList.takeWhile (· ≠ '#')).dropWhile (· ≠ '?') = [] := List.dropWhile_eq_nil_iff.mpr shown
    rw [queryOf,passed]
    rfl
  · have whole : ∀ char ∈ (url++"?"++query).toList, decide (char ≠ '#') = true := by
      intro char member
      refine decide_eq_true ?_
      rintro rfl
      rw [String.toList_append,String.toList_append] at member
      rcases List.mem_append.mp member with address | later
      · rcases List.mem_append.mp address with own | mark
        · exact plain.fragment own
        · exact absurd mark (by decide)
      · exact inside later
    rw [queryOf,List.takeWhile_eq_self_iff.mpr whole,String.toList_append,String.toList_append,List.append_assoc,
      List.dropWhile_append_of_pos before]
    exact String.ofList_toList

theorem hash_special : ¬UrlQuoting.quotedCode '#'.toNat := by simp [UrlQuoting.quotedCode,UrlQuoting.unreservedCode]

theorem urlencode_no_fragment (pairs : List (String × String)) : '#' ∉ (urlencode pairs).toList := by
  have inside : ∀ pair, '#' ∉ pairText pair := by
    intro pair member
    rcases List.mem_append.mp member with name | later
    · exact quoted_without _ hash_special name rfl
    · rcases List.mem_cons.mp later with never | value
      · cases never
      · exact quoted_without _ hash_special value rfl
  rw [urlencode,String.toList_ofList]
  induction pairs with
  | nil => simp
  | cons pair rest ih =>
    cases rest with
    | nil => simpa using inside pair
    | cons other rest =>
      intro member
      rw [List.map_cons,List.map_cons,List.intercalate_cons_cons] at member
      rcases List.mem_append.mp member with first | later
      · rcases List.mem_append.mp first with own | mark
        · exact inside pair own
        · exact absurd mark (by decide)
      · exact ih later

end Queries

-- PaymentPageRedirectView
section PaymentPage

def DATA_UPLOAD_MAX_NUMBER_FIELDS : Nat := 1000

-- request.GET
def queryDict (qs : String) : Option (List (String × List String)) :=
  if DATA_UPLOAD_MAX_NUMBER_FIELDS < qs.toList.count '&'+1 then none else some (lists (parseQsl qs))

def addQueryParamsToRedirectUrl (url : String) (params : List (String × List String)) : String :=
  withQuery url (urlencode (pairsOf params))

def paymentPageRedirect (frontendUrl qs : String) : HttpResponse :=
  match queryDict qs with
  | none => .response 400 "TooManyFieldsSent"
  | some params => .redirect 303 (addQueryParamsToRedirectUrl frontendUrl params)

theorem redirected_query {frontendUrl qs url : String} {status : Nat} (plain : Plain frontendUrl)
    (redirected : paymentPageRedirect frontendUrl qs = .redirect status url) :
    status = 303 ∧ lists (parseQsl (queryOf url)) = lists (parseQsl qs) := by
  unfold paymentPageRedirect queryDict at redirected
  split at redirected
  · cases redirected
  · rename_i params given
    split at given
    · cases given
    · cases given
      cases redirected
      refine ⟨rfl,?_⟩
      rw [addQueryParamsToRedirectUrl,query_of plain (urlencode_no_fragment _)]
      exact lists_kept qs

theorem redirected_unless_many {frontendUrl qs : String} (few : qs.toList.count '&' < 1000) :
    paymentPageRedirect frontendUrl qs = .redirect 303 (addQueryParamsToRedirectUrl frontendUrl (lists (parseQsl qs))) := by
  have read : ¬DATA_UPLOAD_MAX_NUMBER_FIELDS < qs.toList.count '&'+1 := by
    unfold DATA_UPLOAD_MAX_NUMBER_FIELDS
    omega
  simp only [paymentPageRedirect,queryDict,if_neg read]

theorem redirect_keeps_query {frontendUrl : String} (plain : Plain frontendUrl) (qs : String) :
    (paymentPageRedirect frontendUrl qs = .response 400 "TooManyFieldsSent" ∧ 1000 ≤ qs.toList.count '&') ∨
    ∃ url, paymentPageRedirect frontendUrl qs = .redirect 303 url ∧ qs.toList.count '&' < 1000 ∧
      lists (parseQsl (queryOf url)) = lists (parseQsl qs) := by
  by_cases few : qs.toList.count '&' < 1000
  · have redirected := @redirected_unless_many frontendUrl qs few
    exact .inr ⟨_,redirected,few,(redirected_query plain redirected).2⟩
  · have many : DATA_UPLOAD_MAX_NUMBER_FIELDS < qs.toList.count '&'+1 := by
      unfold DATA_UPLOAD_MAX_NUMBER_FIELDS
      omega
    exact .inl ⟨by simp [paymentPageRedirect,queryDict,many],Nat.le_of_not_lt few⟩

def askedTwice : String := "course_run_key=course-v1%3AedX%2BDemoX&utm_source=a%20b&course_run_key=%C3%A9&coupon="

theorem query_sent_on : ∃ url, paymentPageRedirect "https://checkout.edx.org" askedTwice = .redirect 303 url ∧
    lists (parseQsl (queryOf url)) = lists (parseQsl askedTwice) := by
  have plain : Plain "https://checkout.edx.org" := ⟨by decide,by decide⟩
  rcases redirect_keeps_query plain askedTwice with ⟨_,many⟩ | ⟨url,redirected,_,kept⟩
  · exact absurd many (by decide +kernel)
  · exact ⟨url,redirected,kept⟩

example : lists (parseQsl askedTwice) =
    [("course_run_key",["course-v1:edX+DemoX","é"]),("utm_source",["a b"]),("coupon",[""])] := by decide +kernel

end PaymentPage

-- CreditCheckoutView
section Credit

structure Variant where
  sku : Option String
  isMatchingVariant : Option Bool
  attributes : Option (List Attribute)

structure Product where
  variants : List Variant

inductive Request where
  | searchProjections (filter : List String) (markMatchingVariants : Bool)
  deriving DecidableEq

abbrev Response : Request → Type
  | .searchProjections _ _ => Except ErrorCode (List Product)

abbrev View := Prog Request Response Exn

def externalIdsVariant : String := "external-ids-variant"

def isCreditVariant (courseRunKey : String) (variant : Variant) : Except Exn Bool :=
  if variant.isMatchingVariant = some true then do
    let external ← getAttributeValue variant.attributes externalIdsVariant
    if external = .text courseRunKey then
      let mode ← getAttributeValue variant.attributes "mode"
      return mode = .text "credit"
    else return false
  else return false

def firstCreditVariant (courseRunKey : String) : List Variant → Except Exn (Option Variant)
  | [] => .ok none
  | variant::rest => do
    if ← isCreditVariant courseRunKey variant then return some variant else firstCreditVariant courseRunKey rest

def filterExpr (courseRunKey : String) : List String :=
  ["variants.attributes.external-ids-variant:\""++courseRunKey++"\"","variants.attributes.mode:\"credit\""]

def searchCreditVariant (courseRunKey : String) : View (Option Variant) := do
  let results ← .expect .commercetoolsError (.perform (Request.searchProjections (filterExpr courseRunKey) true))
  match firstCreditVariant courseRunKey (results.flatMap (·.variants)) with
  | .ok found => return found
  | .error e => .raise e

def getCreditVariantByCourseRun (courseRunKey : String) : View (Option Variant) :=
  (searchCreditVariant courseRunKey).retry OrderNumber.isCommercetoolsError 2

def skuText (variant : Variant) : String := variant.sku.getD "None"

def respond (paymentPageUrl courseRunKey : String) : Option Variant → HttpResponse
  | none => .response 400 ("No credit variant found for course_run_key="++courseRunKey)
  | some variant => .redirect 302 (withQuery paymentPageUrl (urlencode [("course_run_key",skuText variant)]))

-- `paymentPageUrl` is the absolute URL of the payment page's view.
def creditCheckout (paymentPageUrl courseRunKey : String) : View HttpResponse :=
  ((getCreditVariantByCourseRun courseRunKey).bind fun found => .pure (respond paymentPageUrl courseRunKey found)).handle fun e =>
    if OrderNumber.isCommercetoolsError e then .pure (.response 400 "Something went wrong.") else .raise e

structure IsCredit (courseRunKey : String) (variant : Variant) : Prop where
  external : getAttributeValue variant.attributes externalIdsVariant = .ok (.text courseRunKey)
  mode : getAttributeValue variant.attributes "mode" = .ok (.text "credit")

theorem credit_variant {courseRunKey : String} {variant : Variant} (taken : isCreditVariant courseRunKey variant = .ok true) :
    IsCredit courseRunKey variant := by
  unfold isCreditVariant at taken
  split at taken
  · cases external : getAttributeValue variant.attributes externalIdsVariant with
    | error e =>
      rw [external] at taken
      cases taken
    | ok value =>
      rw [external] at taken
      simp only [bind,Except.bind] at taken
      split at taken
      · rename_i same
        cases mode : getAttributeValue variant.attributes "mode" with
        | error e =>
          rw [mode] at taken
          cases taken
        | ok value' =>
          rw [mode] at taken
          simp only [pure,Except.pure,Except.ok.injEq,decide_eq_true_eq] at taken
          exact ⟨same ▸ external,taken ▸ mode⟩
      · cases taken
  · cases taken

theorem first_credit_variant {courseRunKey : String} {variants : List Variant} {variant : Variant}
    (found : firstCreditVariant courseRunKey variants = .ok (some variant)) :
    variant ∈ variants ∧ IsCredit courseRunKey variant := by
  induction variants with
  | nil => cases found
  | cons head rest ih =>
    rw [firstCreditVariant] at found
    cases tested : isCreditVariant courseRunKey head with
    | error e =>
      rw [tested] at found
      cases found
    | ok credit =>
      rw [tested] at found
      simp only [bind,Except.bind,pure,Except.pure] at found
      split at found
      · rename_i taken
        cases found
        rw [taken] at tested
        exact ⟨List.mem_cons_self,credit_variant tested⟩
      · obtain ⟨member,credit⟩ := ih found
        exact ⟨List.mem_cons_of_mem _ member,credit⟩

def Found (t : List (Exchange Request Response)) (courseRunKey : String) (variant : Variant) : Prop :=
  ∃ results, ⟨.searchProjections (filterExpr courseRunKey) true,.ok results⟩ ∈ t ∧ variant ∈ results.flatMap (·.variants) ∧
    IsCredit courseRunKey variant

theorem search_answered {courseRunKey : String} {t : List (Exchange Request Response)} {variant : Variant}
    (ran : (searchCreditVariant courseRunKey).Answered t (.ok (some variant))) : Found t courseRunKey variant := by
  obtain ⟨answer,rest,rfl,ran⟩ := ran
  cases answer with
  | error code => cases ran.2
  | ok results =>
    simp only [Prog.pure_bind] at ran
    split at ran
    · rename_i found same
      obtain ⟨_,result⟩ := ran
      cases result
      obtain ⟨member,credit⟩ := first_credit_variant same
      exact ⟨results,List.mem_cons_self,member,credit⟩
    · cases ran.2

theorem variant_answered {courseRunKey : String} {t : List (Exchange Request Response)} {variant : Variant} {attempts : Nat}
    (ran : ((searchCreditVariant courseRunKey).retry OrderNumber.isCommercetoolsError attempts).Answered t (.ok (some variant))) :
    Found t courseRunKey variant := by
  induction attempts generalizing t with
  | zero => exact search_answered ran
  | succ attempts ih =>
    rcases Prog.answered_handle.mp ran with ⟨found,done,same⟩ | ⟨e,first,later,rfl,_,ran⟩
    · cases same
      exact search_answered done
    · split at ran
      · obtain ⟨results,asked,member,credit⟩ := ih ran
        exact ⟨results,List.mem_append_right _ asked,member,credit⟩
      · cases ran.2

theorem checkout_answered {paymentPageUrl courseRunKey url : String} {status : Nat} {t : List (Exchange Request Response)}
    (ran : (creditCheckout paymentPageUrl courseRunKey).Answered t (.ok (.redirect status url))) :
    ∃ variant, Found t courseRunKey variant ∧
      url = withQuery paymentPageUrl (urlencode [("course_run_key",skuText variant)]) := by
  rcases Prog.answered_handle.mp ran with ⟨out,done,same⟩ | ⟨e,_,_,_,_,ran⟩
  · cases same
    rcases Prog.answered_bind.mp done with ⟨_,_,never⟩ | ⟨found,first,_,rfl,searched,rfl,same⟩
    · cases never
    · cases found with
      | none => cases same
      | some variant =>
        cases same
        rw [List.append_nil]
        exact ⟨variant,variant_answered searched,rfl⟩
  · split at ran
    · cases ran.2
    · cases ran.2

theorem credit_course_run {courseRunKey : String} {variant : Variant} {lineItem : LineRevocation.LineItem}
    (credit : IsCredit courseRunKey variant) (bought : lineItem.attributes = variant.attributes) :
    LineRevocation.getLineItemAttribute lineItem "mode" = .ok (.text "credit") ∧
      LineRevocation.getEdxProductCourseRunKey lineItem (.text "credit") = .ok (.text courseRunKey) := by
  have reads : ∀ (name text : String), getAttributeValue variant.attributes name = .ok (.text text) →
      LineRevocation.getLineItemAttribute lineItem name = .ok (.text text) := by
    intro name text given
    unfold LineRevocation.getLineItemAttribute
    rw [bought]
    exact CatalogInfo.text_attribute_read given
  refine ⟨reads _ _ credit.mode,?_⟩
  have credited : FieldValue.text "credit" = .text CatalogInfo.courseModeCredit := rfl
  rw [LineRevocation.getEdxProductCourseRunKey,CatalogInfo.getEdxProductCourseRunKey,if_pos credited]
  exact reads _ _ credit.external

theorem one_field (name value : String) : (urlencode [(name,value)]).toList.count '&' = 0 := by
  rw [urlencode,String.toList_ofList]
  refine List.count_eq_zero.mpr fun member => pair_without_ampersand (name,value) ?_
  simpa using member

-- From the course run that is asked for, over both redirects, to the variant that is
-- sold and the course run that its buyer is enrolled in.
theorem credit_checkout_arrives {paymentPageUrl frontendUrl courseRunKey url : String} {status : Nat}
    {t : List (Exchange Request Response)} (paymentPage : Plain paymentPageUrl) (frontend : Plain frontendUrl)
    (ran : (creditCheckout paymentPageUrl courseRunKey).Answered t (.ok (.redirect status url))) :
    ∃ variant, Found t courseRunKey variant ∧
      (∃ checkoutUrl, paymentPageRedirect frontendUrl (queryOf url) = .redirect 303 checkoutUrl ∧
        lists (parseQsl (queryOf checkoutUrl)) = [("course_run_key",[skuText variant])]) ∧
      ∀ lineItem : LineRevocation.LineItem, lineItem.attributes = variant.attributes → ∃ courseMode,
        LineRevocation.getLineItemAttribute lineItem "mode" = .ok courseMode ∧
          LineRevocation.getEdxProductCourseRunKey lineItem courseMode = .ok (.text courseRunKey) := by
  obtain ⟨variant,found,rfl⟩ := checkout_answered ran
  have asked := query_of paymentPage (urlencode_no_fragment [("course_run_key",skuText variant)])
  refine ⟨variant,found,?_,?_⟩
  · have few : (queryOf (withQuery paymentPageUrl (urlencode [("course_run_key",skuText variant)]))).toList.count '&' < 1000 := by
      rw [asked,one_field]
      omega
    have redirected := @redirected_unless_many frontendUrl _ few
    refine ⟨_,redirected,?_⟩
    rw [(redirected_query frontend redirected).2,asked,parse_urlencode]
    rfl
  · intro lineItem bought
    obtain ⟨_,_,_,credit⟩ := found
    exact ⟨.text "credit",credit_course_run credit bought⟩

def creditRun : Variant :=
  ⟨some "edX+DemoX credit",some true,some [⟨"mode",.text "credit"⟩,⟨"external-ids-variant",.text "course-v1:edX+DemoX"⟩]⟩

def searchedTwice : List (Exchange Request Response) :=
  [⟨.searchProjections (filterExpr "course-v1:edX+DemoX") true,.error .unavailable⟩,
    ⟨.searchProjections (filterExpr "course-v1:edX+DemoX") true,.ok [⟨[creditRun]⟩]⟩]

theorem credit_run_checked_out : ∃ variant, Found searchedTwice "course-v1:edX+DemoX" variant ∧ ∃ checkoutUrl,
    paymentPageRedirect "https://checkout.edx.org" "course_run_key=edX%2BDemoX+credit" = .redirect 303 checkoutUrl ∧
      lists (parseQsl (queryOf checkoutUrl)) = [("course_run_key",[skuText variant])] := by
  have ran : (creditCheckout "https://coordinator.edx.org/lms/payment_page_redirect/" "course-v1:edX+DemoX").Answered searchedTwice
      (.ok (.redirect 302 (withQuery "https://coordinator.edx.org/lms/payment_page_redirect/" "course_run_key=edX%2BDemoX+credit"))) :=
    Prog.follow_answered (by decide +kernel)
  have page : Plain "https://coordinator.edx.org/lms/payment_page_redirect/" := ⟨by decide,by decide⟩
  have frontend : Plain "https://checkout.edx.org" := ⟨by decide,by decide⟩
  obtain ⟨variant,found,arrived,_⟩ := credit_checkout_arrives page frontend ran
  rw [query_of page (by decide)] at arrived
  exact ⟨variant,found,arrived⟩

end Credit
end CheckoutRedirects
