import CommerceCoordinator.MobileCreateOrder
import CommerceCoordinator.Memcache
import CommerceCoordinator.Protocol
import CommerceCoordinator.TimedCache

open Commercetools CallTree TimedCache

-- SingleInvocationAPIView: a view that marks in the cache what it is working on.
namespace SingleInvocation

-- 10 minutes, in seconds
def NOTIFICATION_CACHE_TTL_SECS : Nat := 60*10

section Views
variable {Signal ε : Type}

-- Requests of the tiered cache. The tier of the request itself only repeats what
-- the shared one has answered with a value.
inductive Request (Signal : Type) where
  | getCachedResponse (key : String)
  | deleteAllTiers (key : String)
  | setAllTiers (key : String) (value : Bool) (timeout : Nat)
  | sendRobust (signal : Signal)

abbrev Response : Request Signal → Type
  | .getCachedResponse _ => Option Bool
  | .deleteAllTiers _ => Unit
  | .setAllTiers _ _ _ => Unit
  | .sendRobust _ => Unit

abbrev View (Signal ε α : Type) := Prog (Request Signal) (@Response Signal) ε α

def getCachedResponse (key : String) : View Signal ε (Option Bool) := .perform (Request.getCachedResponse key)
def deleteAllTiers (key : String) : View Signal ε Unit := .perform (Request.deleteAllTiers key)
def setAllTiers (key : String) (value : Bool) (timeout : Nat) : View Signal ε Unit :=
  .perform (Request.setAllTiers key value timeout)
def sendRobust (signal : Signal) : View Signal ε Unit := .perform (Request.sendRobust signal)

def viewCacheKey (fasthash : String → String) (view identifier : String) : String :=
  Memcache.safeKey fasthash (view ++ "_" ++ identifier) "ct_sub_msg_invo" "1"

variable (fasthash : String → String)

def markRunning (view identifier : String) (tf : Bool) : View Signal ε Unit := do
  let key := viewCacheKey fasthash view identifier
  let cached ← getCachedResponse key
  if cached.isSome || !tf then deleteAllTiers key
  if tf then setAllTiers key tf NOTIFICATION_CACHE_TTL_SECS

def isRunning (view identifier : String) : View Signal ε Bool := do
  let cacheValue ← getCachedResponse (viewCacheKey fasthash view identifier)
  return cacheValue.isSome || cacheValue.getD false

def dispatch : Option Signal → View Signal ε Unit
  | some signal => sendRobust signal
  | none => return

-- What the subclasses share: a request that finds the mark is ignored, and is
-- answered like the one that set it.
def singleInvocation (view identifier : String) (signal : Option Signal) : View Signal ε Nat := do
  if ← isRunning fasthash view identifier then return 200
  else
    markRunning fasthash view identifier true
    dispatch signal
    return 200

end Views

section Subclasses
variable (fasthash : String → String)

structure Refund where
  id : String
  created : String
  status : String
  amount : String
  currency : String
  deriving DecidableEq

inductive Signal where
  | paypalPaymentRefunded (paypalCaptureId : Option String) (refund : Refund) (orderNumber : Option String)
  | orderSanctioned (orderId messageId : String)
  | iosPaymentRefunded (id : String) (created amount : Int) (currency status : String)
    (redirectToLegacyEnabled : Bool) (legacyRedirectPayload : String)
  | androidPaymentRefunded (id created status amount currency : String)
  deriving DecidableEq

abbrev Post := View Signal Exn Nat

structure Link where
  rel : Option String
  href : String

structure Resource where
  id : String
  invoiceId : Option String
  createTime : String
  status : String
  value : String
  currencyCode : String
  links : List Link

def contains (s part : String) : Bool := s.toList.tails.any (part.toList.isPrefixOf ·)

def paypalCaptureId (links : List Link) : Option String :=
  (links.find? fun link => link.rel = some "up" && contains link.href "captures").map fun link =>
    String.ofList ((link.href.toList.splitOn '/').getLastD [])

-- PayPalWebhookView.post, once the signature has been checked.
def paypalPost (verified : Bool) (eventType : String) (resource : Resource) : Post :=
  if !verified then return 400
  else if eventType = "PAYMENT.CAPTURE.REFUNDED" then
    let refund : Refund := ⟨resource.id,resource.createTime,resource.status,resource.value,resource.currencyCode⟩
    singleInvocation fasthash "PayPalWebhookView" resource.id
      (some (.paypalPaymentRefunded (paypalCaptureId resource.links) refund resource.invoiceId))
  else return 200

-- OrderSanctionedView.post, for a valid message.
def orderSanctionedPost (orderId messageId : String) : Post :=
  singleInvocation fasthash "OrderSanctionedView" orderId (some (.orderSanctioned orderId messageId))

-- An App Store notification; `price` is scaled by 1000.
structure Notification where
  notificationType : String
  originalTransactionId : String
  notificationUUID : Option String
  revocationDate : Int
  price : Int
  currency : String

-- IOSRefundView.post, once the notification has been parsed.
def iosRefundPost (fractionDigits : String → Nat) (notification : Notification) (redirectToLegacyEnabled : Bool)
    (body : String) : Post :=
  if notification.notificationType = "REFUND" then
    let transactionId := notification.originalTransactionId
    let notificationId := notification.notificationUUID.getD transactionId
    let amount := MobileCreateOrder.convertLocalizedPriceToCtCentAmount notification.price
      (fractionDigits notification.currency) 3
    singleInvocation fasthash "IOSRefundView" notificationId
      (some (.iosPaymentRefunded transactionId notification.revocationDate amount notification.currency "succeeded"
        redirectToLegacyEnabled body))
  else return 200

-- A decoded Google Play notification, with the fields of its voided purchase.
structure GoogleNotification where
  notificationType : Option String
  refundType : Option Int
  orderId : String
  eventTimeMillis : String

def voidedPurchase (subscriptionType refundSubscriptionType : String) (notification : GoogleNotification) : Option Signal :=
  if subscriptionType ≠ refundSubscriptionType then none
  else if notification.notificationType ≠ some "voidedPurchaseNotification" then none
  else if notification.refundType ≠ some 1 then none
  else some (.androidPaymentRefunded notification.orderId notification.eventTimeMillis "succeeded" "UNSET" "UNSET")

-- AndroidRefundView.post, which marks whatever it is sent.
def androidRefundPost (messageId subscriptionType refundSubscriptionType : String) (notification : GoogleNotification) :
    Post :=
  singleInvocation fasthash "AndroidRefundView" messageId
    (voidedPurchase subscriptionType refundSubscriptionType notification)

end Subclasses

-- `missed` are the requests between a lookup that found no mark and their own
-- setting of it, `dispatched` those that have sent their signal.
structure Working (ι : Type) where
  cache : Cache String Bool Nat
  missed : ι → Bool
  dispatched : List ι

section Service
variable {ι Signal : Type} [DecidableEq ι]

-- The clock counts milliseconds.
def serveCache : (r : Request Signal) → Cache String Bool Nat → Response r × Cache String Bool Nat
  | .getCachedResponse key,c => (c.get key,c)
  | .deleteAllTiers key,c => ((),c.delete key)
  | .setAllTiers key value timeout,c => ((),c.set key value (c.now+1000*timeout))
  | .sendRobust _,c => ((),c)

def note (i : ι) (r : Request Signal) (answer : Response r) (s : Working ι) : Working ι :=
  match r with
  | .getCachedResponse _ => {s with missed := if answer = none then Function.update s.missed i true else s.missed}
  | .deleteAllTiers _ => s
  | .setAllTiers _ _ _ => {s with missed := Function.update s.missed i false}
  | .sendRobust _ => {s with dispatched := s.dispatched++[i]}

def serve (_ : Unit) (r : ι × Request Signal) (s : Working ι) : Response r.2 × Working ι :=
  let served := serveCache r.2 s.cache
  (served.1,note r.1 r.2 served.1 {s with cache := served.2})

def views (ι Signal ε : Type) [DecidableEq ι] :
    System (ι × Request Signal) (fun r => Response r.2) ε (Working ι) Unit Nat where
  serve := serve
  environment := fun later s => (s.cache.advance later).map fun cache => {s with cache}
  restarts := fun _ => false

end Service

-- Where a request stands: before its first lookup, between that and its mark
-- (twice), about to send its signal, or through.
inductive Stage where
  | checking | missed | marking | invoking | finished
  deriving DecidableEq

def Stage.between : Stage → Bool
  | .missed => true
  | .marking => true
  | _ => false

section Protocol
variable {ι Signal ε : Type}

def calls (key : String) : ι × Stage → ι × Request Signal → Prop
  | (i,.checking),(j,.getCachedResponse k) => j = i ∧ k = key
  | (i,.missed),(j,.getCachedResponse k) => j = i ∧ k = key
  | (i,.marking),(j,.deleteAllTiers k) => j = i ∧ k = key
  | (i,.marking),(j,.setAllTiers k _ timeout) => j = i ∧ k = key ∧ timeout = NOTIFICATION_CACHE_TTL_SECS
  | (i,.invoking),(j,.sendRobust _) => j = i
  | _,_ => False

def moves : ι × Stage → (r : ι × Request Signal) → Response r.2 → ι × Stage → Prop
  | (i,.checking),(_,.getCachedResponse _),found,v => v = (i,if found.isSome then .finished else .missed)
  | (i,.missed),(_,.getCachedResponse _),_,v => v = (i,.marking)
  | (i,.marking),(_,.deleteAllTiers _),_,v => v = (i,.marking)
  | (i,.marking),(_,.setAllTiers _ _ _),_,v => v = (i,.invoking)
  | (i,.invoking),(_,.sendRobust _),_,v => v = (i,.finished)
  | _,_,_,_ => False

def invocation (key : String) : Protocol (ι × Request Signal) (fun r => Response r.2) (ι × Stage) :=
  ⟨fun _ _ => True,calls key,moves⟩

theorem single_invocation_follows (fasthash : String → String) (view identifier : String) (signal : Option Signal) (i : ι) :
    ((singleInvocation fasthash view identifier signal : View Signal ε Nat).signed i).Follows
      (invocation (viewCacheKey fasthash view identifier)) (fun _ _ => True) (i,.checking) := by
  refine ⟨⟨rfl,rfl⟩,?_⟩
  intro found _
  refine ⟨_,rfl,?_⟩
  cases found with
  | some value => trivial
  | none =>
    refine ⟨⟨rfl,rfl⟩,?_⟩
    intro again _
    refine ⟨_,rfl,?_⟩
    have set_and_send : ((setAllTiers (viewCacheKey fasthash view identifier) true NOTIFICATION_CACHE_TTL_SECS).bind
        fun _ => (dispatch signal).bind fun _ => Prog.pure 200 : View Signal ε Nat).signed i |>.Follows
          (invocation (viewCacheKey fasthash view identifier)) (fun _ _ => True) (i,.marking) := by
      refine ⟨⟨rfl,rfl,rfl⟩,?_⟩
      intro _ _
      refine ⟨_,rfl,?_⟩
      cases signal with
      | none => trivial
      | some signal => exact ⟨rfl,fun _ _ => ⟨_,rfl,trivial⟩⟩
    cases again with
    | none => exact set_and_send
    | some value => exact ⟨⟨rfl,rfl⟩,fun _ _ => ⟨_,rfl,set_and_send⟩⟩

end Protocol

section Invariant
variable {ι Signal : Type} {key : String} {ends : Nat} {s : Working ι} {stages : ι → ι × Stage}

def Won (s : Working ι) (stages : ι → ι × Stage) (i : ι) : Prop := (stages i).2 = .invoking ∨ i ∈ s.dispatched

-- What holds until `ends`, no later than a time to live after the start.
structure Single (key : String) (ends : Nat) (s : Working ι) (stages : ι → ι × Stage) : Prop where
  begun : ends ≤ s.cache.now+1000*NOTIFICATION_CACHE_TTL_SECS
  named : ∀ i, (stages i).1 = i
  missed : ∀ i, s.missed i = (stages i).2.between
  alone : ∀ i j, s.missed i = true → s.missed j = true → i = j
  marked : ∀ i, Won s stages i → (∃ e, s.cache.lookup key = some e ∧ ends ≤ e.deadline) ∧ ∀ j, s.missed j = false
  won : ∀ i j, Won s stages i → Won s stages j → i = j
  sent : ∀ i ∈ s.dispatched, (stages i).2 = .finished
  once : s.dispatched.Nodup

-- Nobody looks the mark up for the first time while another request has missed
-- it and has not set it yet.
def Alone (s : Working ι) : ι × Request Signal → Prop
  | (i,.getCachedResponse _) => s.missed i = true ∨ ∀ j, s.missed j = false
  | _ => True

theorem Single.at_most_one (single : Single key ends s stages) : s.dispatched.length ≤ 1 := by
  match dispatched : s.dispatched with
  | [] => simp
  | [_] => simp
  | i::j::rest =>
    have same := single.won i j (.inr (by simp [dispatched])) (.inr (by simp [dispatched]))
    have once := single.once
    rw [dispatched,same] at once
    simp at once

theorem Single.marking_alone (single : Single key ends s stages) (missed : s.missed i = true) (j : ι) : ¬Won s stages j := by
  intro won
  have none_missed := (single.marked j won).2 i
  rw [missed] at none_missed
  cases none_missed

theorem Single.unsent (single : Single key ends s stages) (unfinished : (stages i).2 ≠ .finished) : i ∉ s.dispatched :=
  fun sent => unfinished (single.sent i sent)

variable [DecidableEq ι] {t : Stage}

theorem won_quiet {s' : Working ι} (quiet : t ≠ .invoking) (same : s'.dispatched = s.dispatched)
    (won : Won s' (Function.update stages i (i,t)) j) : Won s stages j := by
  rcases won with invoking | sent
  · by_cases own : j = i
    · subst own
      simp only [Function.update_self] at invoking
      exact absurd invoking quiet
    · exact .inl (by simpa only [Function.update_of_ne own] using invoking)
  · exact .inr (same ▸ sent)

theorem named_update (named : ∀ j, (stages j).1 = j) (i j : ι) (t : Stage) : (Function.update stages i (i,t) j).1 = j := by
  by_cases own : j = i
  · subst own
    simp
  · simpa only [Function.update_of_ne own] using named j

theorem missed_update (missed : ∀ j, s.missed j = (stages j).2.between) (i j : ι) (t : Stage) :
    Function.update s.missed i t.between j = (Function.update stages i (i,t) j).2.between := by
  by_cases own : j = i
  · subst own
    simp
  · simpa only [Function.update_of_ne own] using missed j

theorem Single.quiet (single : Single key ends s stages) (quiet : t ≠ .invoking) (unsent : i ∉ s.dispatched)
    {cache : Cache String Bool Nat} (now : cache.now = s.cache.now)
    (alone : t.between = true → ∀ j, s.missed j = true → j = i)
    (marked : ∀ j, Won s stages j → cache.lookup key = s.cache.lookup key ∧ t.between = false) :
    Single key ends ⟨cache,Function.update s.missed i t.between,s.dispatched⟩ (Function.update stages i (i,t)) where
  begun := now ▸ single.begun
  named := fun j => named_update single.named i j t
  missed := fun j => missed_update single.missed i j t
  alone := by
    intro j k first second
    by_cases own : j = i <;> by_cases own' : k = i
    · rw [own,own']
    · subst own
      simp only [Function.update_self,Function.update_of_ne own'] at first second
      exact (alone first k second).symm
    · subst own'
      simp only [Function.update_self,Function.update_of_ne own] at first second
      exact alone second j first
    · simp only [Function.update_of_ne own,Function.update_of_ne own'] at first second
      exact single.alone j k first second
  marked := by
    intro j won
    have before := won_quiet quiet rfl won
    obtain ⟨present,none_missed⟩ := single.marked j before
    obtain ⟨same,outside⟩ := marked j before
    refine ⟨by rw [same]; exact present,?_⟩
    intro k
    by_cases own : k = i
    · subst own
      simpa using outside
    · simpa only [Function.update_of_ne own] using none_missed k
  won := fun j k first second => single.won j k (won_quiet quiet rfl first) (won_quiet quiet rfl second)
  sent := by
    intro j sent
    have own : j ≠ i := fun same => unsent (same ▸ sent)
    simpa only [Function.update_of_ne own] using single.sent j sent
  once := single.once

theorem Single.set_mark (single : Single key ends s stages) (now : s.cache.now < ends) (at_set : (stages i).2 = .marking)
    (value : Bool) : Single key ends ⟨s.cache.set key value (s.cache.now+1000*NOTIFICATION_CACHE_TTL_SECS),
      Function.update s.missed i false,s.dispatched⟩ (Function.update stages i (i,.invoking)) := by
  have missing : s.missed i = true := by rw [single.missed i,at_set]; rfl
  have unsent : i ∉ s.dispatched := single.unsent (by rw [at_set]; decide)
  have only : ∀ j, Won ⟨s.cache.set key value (s.cache.now+1000*NOTIFICATION_CACHE_TTL_SECS),
      Function.update s.missed i false,s.dispatched⟩ (Function.update stages i (i,.invoking)) j → j = i := by
    intro j won
    by_contra other
    apply single.marking_alone missing j
    simpa only [Won,Function.update_of_ne other] using won
  have cleared : ∀ j, Function.update s.missed i false j = false := by
    intro j
    by_cases own : j = i
    · subst own
      simp
    · rw [Function.update_of_ne own]
      exact Bool.eq_false_iff.mpr fun missed => own (single.alone j i missed missing)
  refine ⟨single.begun,fun j => named_update single.named i j _,fun j => missed_update single.missed i j .invoking,
    ?_,?_,fun j k first second => (only j first).trans (only k second).symm,?_,single.once⟩
  · intro j k first
    cases (cleared j).symm.trans first
  · intro j _
    refine ⟨⟨_,Cache.lookup_set.mpr ⟨rfl,?_⟩,single.begun⟩,cleared⟩
    exact Nat.lt_of_lt_of_le now single.begun
  · intro j sent
    have own : j ≠ i := fun same => unsent (same ▸ sent)
    simpa only [Function.update_of_ne own] using single.sent j sent

theorem Single.send (single : Single key ends s stages) (at_send : (stages i).2 = .invoking) :
    Single key ends {s with dispatched := s.dispatched++[i]} (Function.update stages i (i,.finished)) := by
  have winner : Won s stages i := .inl at_send
  have unsent : i ∉ s.dispatched := single.unsent (by rw [at_send]; decide)
  obtain ⟨present,none_missed⟩ := single.marked i winner
  have only : ∀ j, Won {s with dispatched := s.dispatched++[i]} (Function.update stages i (i,.finished)) j → j = i := by
    intro j won
    by_contra other
    apply other
    apply single.won j i _ winner
    simpa only [Won,Function.update_of_ne other,List.mem_append,List.mem_singleton,other,or_false] using won
  refine ⟨single.begun,fun j => named_update single.named i j _,?_,single.alone,
    fun _ _ => ⟨present,none_missed⟩,fun j k first second => (only j first).trans (only k second).symm,?_,?_⟩
  · intro j
    have same := missed_update single.missed i j .finished
    rw [← same]
    by_cases own : j = i
    · subst own
      simpa [Stage.between] using none_missed j
    · simp only [Function.update_of_ne own]
  · intro j sent
    by_cases own : j = i
    · subst own
      simp
    · rw [Function.update_of_ne own]
      apply single.sent j
      simpa [own] using sent
  · rw [List.nodup_append]
    refine ⟨single.once,by simp,?_⟩
    intro j sent k member same
    rw [List.mem_singleton.mp member] at same
    exact unsent (same ▸ sent)

theorem Single.still_missed (single : Single key ends s stages) (same : t.between = (stages i).2.between) :
    Function.update s.missed i t.between = s.missed := by
  rw [same,← single.missed i,Function.update_eq_self]

theorem lookup_cases (key : String) (i : ι) (s : Working ι) :
    (∃ value, s.cache.get key = some value ∧
      @serve _ Signal _ () (i,.getCachedResponse key) s = (some value,s)) ∨
    s.cache.lookup key = none ∧ @serve _ Signal _ () (i,.getCachedResponse key) s =
      (none,{s with missed := Function.update s.missed i true}) := by
  cases found : s.cache.get key with
  | some value => exact .inl ⟨value,rfl,by simp [serve,serveCache,note,found]⟩
  | none => exact .inr ⟨Cache.get_none.mp found,by simp [serve,serveCache,note,found]⟩

theorem Single.check (single : Single key ends s stages) (at_check : (stages i).2 = .checking)
    (alone : Alone s (i,(.getCachedResponse key : Request Signal))) :
    Single key ends (@serve _ Signal _ () (i,.getCachedResponse key) s).2 (Function.update stages i
      (i,if (@serve _ Signal _ () (i,.getCachedResponse key) s).1.isSome then .finished else .missed)) := by
  have unsent : i ∉ s.dispatched := single.unsent (by rw [at_check]; decide)
  rcases lookup_cases key i s with ⟨value,found,answered⟩ | ⟨absent,answered⟩
  · rw [answered]
    have through := single.quiet (t := .finished) (by decide) unsent rfl (fun never => by cases never) fun _ _ => ⟨rfl,rfl⟩
    rwa [single.still_missed (by rw [at_check]; rfl)] at through
  · rw [answered]
    apply single.quiet (t := .missed) (by decide) unsent rfl
    · intro _ j missed
      rcases alone with own | nobody
      · rw [single.missed i,at_check] at own
        cases own
      · rw [nobody j] at missed
        cases missed
    · intro j won
      obtain ⟨⟨e,present,_⟩,_⟩ := single.marked j won
      rw [absent] at present
      cases present

theorem Single.marking (single : Single key ends s stages) (between : (stages i).2.between = true)
    {cache : Cache String Bool Nat} (now : cache.now = s.cache.now) :
    Single key ends {s with cache} (Function.update stages i (i,.marking)) := by
  have missed : s.missed i = true := by rw [single.missed i,between]
  have unsent : i ∉ s.dispatched := by
    apply single.unsent
    intro finished
    rw [finished] at between
    cases between
  have marking := single.quiet (t := .marking) (by decide) unsent now (fun _ j other => single.alone j i other missed)
    fun j won => absurd won (single.marking_alone missed j)
  rwa [single.still_missed (by rw [between]; rfl)] at marking

theorem serve_single (single : Single key ends s stages) (now : s.cache.now < ends) (r : ι × Request Signal)
    (alone : Alone s r) (called : calls key (stages i) r) (moved : moves (stages i) r (serve () r s).1 v) :
    Single key ends (serve () r s).2 (Function.update stages i v) := by
  obtain ⟨j,request⟩ := r
  have named := single.named i
  cases at_stage : stages i with
  | mk k t =>
    rw [at_stage] at named called moved
    cases named
    cases t with
    | checking =>
      cases request with
      | getCachedResponse =>
        obtain ⟨rfl,rfl⟩ := called
        cases moved
        exact single.check (by rw [at_stage]) alone
      | _ => cases called
    | missed =>
      cases request with
      | getCachedResponse =>
        obtain ⟨rfl,rfl⟩ := called
        cases moved
        have marking := single.marking (i := j) (by rw [at_stage]; rfl) rfl
        rcases lookup_cases _ j s with ⟨value,found,answered⟩ | ⟨absent,answered⟩
        · rwa [answered]
        · have same := single.still_missed (i := j) (t := .marking) (by rw [at_stage]; rfl)
          simp only [Stage.between] at same
          rw [answered,same]
          exact marking
      | _ => cases called
    | marking =>
      cases request with
      | deleteAllTiers =>
        obtain ⟨rfl,rfl⟩ := called
        cases moved
        exact single.marking (by rw [at_stage]; rfl) rfl
      | setAllTiers =>
        obtain ⟨rfl,rfl,rfl⟩ := called
        cases moved
        exact single.set_mark now (by rw [at_stage]) _
      | _ => cases called
    | invoking =>
      cases request with
      | sendRobust =>
        cases called
        cases moved
        exact single.send (by rw [at_stage])
      | _ => cases called
    | finished => cases request <;> cases called

theorem serve_now (r : ι × Request Signal) (s : Working ι) : (serve () r s).2.cache.now = s.cache.now := by
  obtain ⟨i,request⟩ := r
  cases request with
  | getCachedResponse k =>
    rcases lookup_cases k i s with ⟨value,_,answered⟩ | ⟨_,answered⟩ <;> rw [answered]
  | deleteAllTiers => rfl
  | setAllTiers => rfl
  | sendRobust => rfl

omit [DecidableEq ι] in
theorem start_single (key : String) (cache : Cache String Bool Nat) :
    Single key (cache.now+1000*NOTIFICATION_CACHE_TTL_SECS) (⟨cache,fun _ => false,[]⟩ : Working ι)
      fun i => (i,.checking) := by
  have nobody : ∀ i : ι, ¬Won ⟨cache,fun _ => false,[]⟩ (fun i => (i,.checking)) i := by
    intro i won
    rcases won with invoking | sent
    · cases invoking
    · cases sent
  refine ⟨Nat.le_refl _,fun _ => rfl,fun _ => rfl,?_,fun i won => absurd won (nobody i),
    fun i _ won => absurd won (nobody i),?_,.nil⟩
  · intro i j never
    cases never
  · intro i sent
    cases sent

omit [DecidableEq ι] in
theorem Single.later (single : Single key ends s stages) {cache : Cache String Bool Nat} {later : Nat}
    (moved : s.cache.advance later = some cache) (now : cache.now < ends) : Single key ends {s with cache} stages := by
  obtain ⟨forward,rfl⟩ := Cache.advance_some.mp moved
  have begun := single.begun
  refine ⟨by change ends ≤ later+_; omega,single.named,single.missed,single.alone,?_,single.won,single.sent,single.once⟩
  intro i won
  obtain ⟨⟨e,present,lasts⟩,none_missed⟩ := single.marked i won
  exact ⟨⟨e,(Cache.lookup_advance moved).mpr ⟨present,Nat.lt_of_lt_of_le now lasts⟩,lasts⟩,none_missed⟩

end Invariant

section Runs
variable {ι Signal ε : Type} [DecidableEq ι]

def posts (fasthash : String → String) (view identifier : String) (signals : ι → Option Signal) (i : ι) :
    Prog (ι × Request Signal) (fun r => Response r.2) ε Nat :=
  (singleInvocation fasthash view identifier (signals i)).signed i

-- Before any of the requests, the cache may hold anything.
def arrived (posts : ι → Prog (ι × Request Signal) (fun r => Response r.2) ε Nat) (cache : Cache String Bool Nat) :
    Config (ι × Request Signal) (fun r => Response r.2) ε Nat (Working ι) ι :=
  ⟨⟨cache,fun _ => false,[]⟩,posts⟩

abbrev Runs (posts : ι → Prog (ι × Request Signal) (fun r => Response r.2) ε Nat) :=
  RunsWhen ((views ι Signal ε).step posts) (Permitted fun _ => Alone)

-- Any number of requests that keep to the protocol of one key, until a time to live
-- after the first of them.
theorem followers_dispatch_once {key : String} {posts : ι → Prog (ι × Request Signal) (fun r => Response r.2) ε Nat}
    (follows : ∀ i, (posts i).Follows (invocation key) (fun _ _ => True) (i,.checking)) (cache : Cache String Bool Nat)
    (path : Runs posts (arrived posts cache) events c)
    (within : c.shared.cache.now < cache.now+1000*NOTIFICATION_CACHE_TTL_SECS) : c.shared.dispatched.length ≤ 1 := by
  have along := stages_along (views ι Signal ε) (invocation key) (fun _ _ => True)
    (fun s stages => s.cache.now < cache.now+1000*NOTIFICATION_CACHE_TTL_SECS →
      Single key (cache.now+1000*NOTIFICATION_CACHE_TTL_SECS) s stages)
    (fun i => (i,.checking)) follows ?_ (fun _ _ _ => trivial) (fun _ => rfl) ?_ ?_ path
  · obtain ⟨stages,_,single⟩ := along
    exact (single within).at_most_one
  · exact fun _ => start_single _ cache
  · intro c stages i choice r next v _ single alone at_call called moved now
    have before : c.shared.cache.now < cache.now+1000*NOTIFICATION_CACHE_TTL_SECS := by
      have same := serve_now r c.shared
      change (serve () r c.shared).2.cache.now < _ at now
      omega
    exact serve_single (single before) before r (alone r next at_call) called moved
  · intro later s s' stages moved single now
    obtain ⟨next,advanced,rfl⟩ := Option.map_eq_some_iff.mp moved
    obtain ⟨forward,same⟩ := Cache.advance_some.mp advanced
    apply (single _).later advanced now
    subst same
    exact Nat.lt_of_le_of_lt forward now

theorem dispatched_at_most_once (fasthash : String → String) (view identifier : String) (signals : ι → Option Signal)
    (cache : Cache String Bool Nat)
    (path : Runs (posts (ε := ε) fasthash view identifier signals) (arrived (posts fasthash view identifier signals) cache)
      events c) (within : c.shared.cache.now < cache.now+1000*NOTIFICATION_CACHE_TTL_SECS) :
    c.shared.dispatched.length ≤ 1 :=
  followers_dispatch_once (fun i => single_invocation_follows fasthash view identifier (signals i) i) cache path within

end Runs

section Subclasses
variable {ι : Type} {fasthash : String → String} {view identifier : String}

-- The requests of each subclass that are marked under the same identifier, whatever
-- else they carry.
inductive MarkedUnder (fasthash : String → String) : String → String → Post → Prop where
  | paypal (verified : Bool) (eventType : String) (resource : Resource) :
    MarkedUnder fasthash "PayPalWebhookView" resource.id (paypalPost fasthash verified eventType resource)
  | orderSanctioned (orderId messageId : String) :
    MarkedUnder fasthash "OrderSanctionedView" orderId (orderSanctionedPost fasthash orderId messageId)
  | iosRefund (fractionDigits : String → Nat) (notification : Notification) (redirectToLegacyEnabled : Bool)
      (body : String) :
    MarkedUnder fasthash "IOSRefundView" (notification.notificationUUID.getD notification.originalTransactionId)
      (iosRefundPost fasthash fractionDigits notification redirectToLegacyEnabled body)
  | androidRefund (messageId subscriptionType refundSubscriptionType : String) (notification : GoogleNotification) :
    MarkedUnder fasthash "AndroidRefundView" messageId
      (androidRefundPost fasthash messageId subscriptionType refundSubscriptionType notification)

theorem MarkedUnder.follows {post : Post} (marked : MarkedUnder fasthash view identifier post) (i : ι) :
    (post.signed i).Follows (invocation (viewCacheKey fasthash view identifier)) (fun _ _ => True) (i,.checking) := by
  cases marked with
  | paypal verified eventType resource =>
    unfold paypalPost
    split
    · trivial
    · split
      · exact single_invocation_follows _ _ _ _ i
      · trivial
  | orderSanctioned => exact single_invocation_follows _ _ _ _ i
  | iosRefund fractionDigits notification redirectToLegacyEnabled body =>
    unfold iosRefundPost
    split
    · exact single_invocation_follows _ _ _ _ i
    · trivial
  | androidRefund => exact single_invocation_follows _ _ _ _ i

theorem each_view_dispatches_once [DecidableEq ι] {posts : ι → Post}
    (marked : ∀ i, MarkedUnder fasthash view identifier (posts i)) (cache : Cache String Bool Nat)
    (path : Runs (fun i => (posts i).signed i) (arrived (fun i => (posts i).signed i) cache) events c)
    (within : c.shared.cache.now < cache.now+1000*NOTIFICATION_CACHE_TTL_SECS) : c.shared.dispatched.length ≤ 1 :=
  followers_dispatch_once (fun i => (marked i).follows i) cache path within

end Subclasses

section Deliveries

def digest (s : String) : String := s

def nothingMarked : Cache String Bool Nat := ⟨0,fun _ => none⟩

def sanctionedSignal (_ : Fin 3) : Option Signal := some (.orderSanctioned "order-1" "message-1")

def sanctioned (i : Fin 3) : Prog (Fin 3 × Request Signal) (fun r => Response r.2) Exn Nat :=
  (orderSanctionedPost digest "order-1" "message-1").signed i

def oneAfterTheOther : List (Event (Fin 3) Unit Nat) :=
  [.act 0 (),.act 0 (),.act 0 (),.act 1 (),.world 599999,.act 2 (),.act 0 ()]

instance {ι : Type} [Fintype ι] (s : Working ι) : DecidablePred (@Alone ι Signal s) := fun r =>
  match r with
  | (i,.getCachedResponse _) => inferInstanceAs (Decidable (s.missed i = true ∨ ∀ j, s.missed j = false))
  | (_,.deleteAllTiers _) => inferInstanceAs (Decidable True)
  | (_,.setAllTiers _ _ _) => inferInstanceAs (Decidable True)
  | (_,.sendRobust _) => inferInstanceAs (Decidable True)

theorem sanctioned_once :
    ∃ c, run ((views (Fin 3) Signal Exn).step sanctioned) (arrived sanctioned nothingMarked) oneAfterTheOther = some c ∧
      c.shared.dispatched = [0] ∧ c.shared.dispatched.length ≤ 1 := by
  have ran : ((guardedRun ((views (Fin 3) Signal Exn).step sanctioned) (permitted fun _ s r => decide (Alone s r))
    (arrived sanctioned nothingMarked) oneAfterTheOther).map fun c => (c.shared.dispatched,c.shared.cache.now)) =
      some ([0],599999) := by
    decide +kernel
  obtain ⟨c,reached,seen⟩ := Option.map_eq_some_iff.mp ran
  obtain ⟨dispatched,clock⟩ := Prod.mk.inj seen
  have path : Runs sanctioned (arrived sanctioned nothingMarked) oneAfterTheOther c :=
    RunsWhen.nil.guarded (fun c event => permitted_decide c event) reached
  have once := dispatched_at_most_once digest "OrderSanctionedView" "order-1" sanctionedSignal nothingMarked path
    (by rw [clock]; decide)
  exact ⟨c,path.sound,dispatched,once⟩

def refunded : Resource :=
  ⟨"refund-1",some "2U-2025000001","2025-06-01T00:00:00Z","COMPLETED","49.00","USD",
    [⟨some "up","https://api.paypal.com/v2/payments/captures/capture-1"⟩]⟩

def notified (i : Fin 2) : Prog (Fin 2 × Request Signal) (fun r => Response r.2) Exn Nat :=
  (paypalPost digest true "PAYMENT.CAPTURE.REFUNDED" refunded).signed i

local instance two_deliveries : NeZero 2 := ⟨by omega⟩

def atTheSameTime : List (Event (Fin 2) Unit Nat) :=
  [.act 0 (),.act 1 ()] ++ List.replicate 3 (.act 0 ()) ++ List.replicate 4 (.act 1 ())

theorem refund_dispatched_twice :
    ∃ c, run ((views (Fin 2) Signal Exn).step notified) (arrived notified nothingMarked) atTheSameTime = some c ∧
      c.shared.cache.now < nothingMarked.now+1000*NOTIFICATION_CACHE_TTL_SECS ∧ ¬c.shared.dispatched.length ≤ 1 := by
  have ran : ((run ((views (Fin 2) Signal Exn).step notified) (arrived notified nothingMarked) atTheSameTime).map
    fun c => (c.shared.dispatched,c.shared.cache.now)) = some ([0,1],0) := by
    decide +kernel
  obtain ⟨c,reached,seen⟩ := Option.map_eq_some_iff.mp ran
  obtain ⟨dispatched,clock⟩ := Prod.mk.inj seen
  refine ⟨c,reached,?_,?_⟩
  · rw [clock]
    decide
  · rw [dispatched]
    decide

end Deliveries
end SingleInvocation
