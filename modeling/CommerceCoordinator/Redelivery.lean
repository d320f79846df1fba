import CommerceCoordinator.DeliverySteps

open Commercetools CallTree OrderReturn PaymentTransactions CommercetoolsClient RefundPipeline OrderReturned RefundDelivery

-- Several deliveries of one OrderReturned message: at the same time, and one
-- after the other with failing calls.
namespace Redelivery

-- The ledger a message finds: it names returns of the order, and nothing of
-- what it names has been refunded at the provider.
structure Announced (returnItems : List ReturnedItem) (s : Ledger) : Prop where
  listed : ∀ item ∈ returnItems, HasReturn s.order item.id item.lineItemId
  planned : 0 ≤ s.payment.amountPlanned.centAmount
  unrefunded : Uncovered returnItems s

theorem Announced.settled (announced : Announced returnItems s) : Settled returnItems s :=
  ⟨announced.listed,announced.planned,fun item member => by rw [announced.unrefunded item member]; exact Nat.zero_le 1,
    .inl announced.unrefunded⟩

section Interleaved

inductive Stage where
  | starting
  | between (steps : List PipelineStep) (k : Kwargs)
  | ended

variable {sold : Sale} {orderId : String} {returnItems : List ReturnedItem} {s t : Ledger}

def Stage.advance (sold : Sale) (orderId : String) (returnItems : List ReturnedItem) (s : Ledger) : Stage → Option (Stage × Ledger)
  | .starting =>
    match Prog.exec (serve true) (prepareReturn sold orderId returnItems) s with
    | (.ok (some k),t) => some (.between orderRefundRequested k,t)
    | (_,t) => some (.ended,t)
  | .between (step::rest) k =>
    match Prog.exec (serve true) (runFilter step k) s with
    | (.ok k',t) => some (.between rest k',t)
    | (.error _,t) => some (.ended,t)
  | .between [] k => some (.ended,(Prog.exec (serve true) (revokeLineItems sold returnItems k) s).2)
  | .ended => none

def Stage.remaining (sold : Sale) (orderId : String) (returnItems : List ReturnedItem) : Stage → Call Unit
  | .starting => fulfillOrderReturnedSignalTask sold orderId returnItems
  | .between steps k => do
    let result ← runPipeline steps k
    revokeLineItems sold returnItems result
  | .ended => .pure ()

-- The stages cut the task into pieces and leave nothing out.
theorem advance_remaining {stage next : Stage} (advanced : stage.advance sold orderId returnItems s = some (next,t)) :
    (Prog.exec (serve true) (stage.remaining sold orderId returnItems) s).2 =
      (Prog.exec (serve true) (next.remaining sold orderId returnItems) t).2 := by
  cases stage with
  | starting =>
    simp only [Stage.advance] at advanced
    simp only [Stage.remaining,fulfillOrderReturnedSignalTask,Prog.monad_bind,Prog.exec_bind]
    split at advanced
    · rename_i k u ran
      cases advanced
      rw [ran]
    · rename_i out u other ran
      cases advanced
      rw [ran]
      rcases out with e | _ | k
      · rfl
      · rfl
      · exact absurd rfl (other k)
  | between steps k =>
    cases steps with
    | nil =>
      cases advanced
      rfl
    | cons step rest =>
      simp only [Stage.advance] at advanced
      simp only [Stage.remaining,runPipeline,List.foldlM_cons,Prog.monad_bind,Prog.exec_bind]
      split at advanced
      · rename_i k' u ran
        cases advanced
        rw [ran]
        exact (congrArg Prod.snd (Prog.exec_bind (runPipeline rest k') (revokeLineItems sold returnItems) _)).symm
      · rename_i e u ran
        cases advanced
        rw [ran]
        rfl
  | ended => cases advanced

structure Deliveries (ι : Type) where
  ledger : Ledger
  runs : ι → Stage

def deliver {ι : Type} [DecidableEq ι] (sold : Sale) (orderId : String) (returnItems : List ReturnedItem) (c : Deliveries ι) (i : ι) :
    Option (Deliveries ι) :=
  ((c.runs i).advance sold orderId returnItems c.ledger).map fun (stage,ledger) => ⟨ledger,Function.update c.runs i stage⟩

def Stage.fetches : Stage → Bool
  | .between (step::_) _ => step = .fetchOrderDetailsByOrderId
  | _ => false

-- Past the reading of the return's payment state, and not past its writing.
def Stage.refunding : Stage → Bool
  | .between (step::_) _ =>
    step ≠ .determineActiveOrderManagementSystemByOrderId ∧ step ≠ .fetchOrderDetailsByOrderId
  | _ => false

def ReadsAlone {ι : Type} (c : Deliveries ι) (i : ι) : Prop :=
  (c.runs i).fetches = true → ∀ j, j ≠ i → (c.runs j).refunding = false

def Outside (returnItems : List ReturnedItem) (s : Ledger) : Stage → Prop
  | .between steps k => refundable (expanded s) = true ∧ (steps = [] ∨ Requested returnItems k ∧
      (steps = orderRefundRequested ∨ steps = orderRefundRequested.drop 1))
  | _ => True

inductive Inside (returnItems : List ReturnedItem) (s : Ledger) : Stage → Prop where
  | between : refundable (expanded s) = true → Stage.refunding (.between (step::rest) k) = true →
      Placed returnItems (step::rest) k s → Inside returnItems s (.between (step::rest) k)

theorem Outside.sale {stage : Stage} (outside : Outside returnItems s stage) (same : saleOf t = saleOf s) :
    Outside returnItems t stage := by
  cases stage with
  | between steps k => exact ⟨by rw [refundable_sale same]; exact outside.1,outside.2⟩
  | _ => trivial

theorem exec_meets {post : Except Exn α → Ledger → Prop} {p : Call α}
    (holds : Meets (fun answers _ _ => answers = true) post p s) :
    post (Prog.exec (serve true) p s).1 (Prog.exec (serve true) p s).2 :=
  Prog.wp_exec (fun _ _ => rfl) holds

theorem exec_sale (p : Call α) (s : Ledger) : saleOf (Prog.exec (serve true) p s).2 = saleOf s := by
  have moved : Meets (fun answers _ _ => answers = true) (fun _ t => saleOf t = saleOf s) p s :=
    Prog.wp_along (fun a b => saleOf b = saleOf a) (fun _ => rfl) (fun _ _ _ ab bc => bc.trans ab)
      (fun answers r s => serve_sale answers r s) p s
  exact exec_meets moved

theorem answered_harmless (answers : Bool) (s : Ledger) (r : Request) (through : answers = true) :
    Harmless returnItems answers s r := by
  intro failed
  rw [through] at failed
  cases failed

theorem advance_sale {stage next : Stage} (advanced : stage.advance sold orderId returnItems s = some (next,t)) :
    saleOf t = saleOf s := by
  cases stage with
  | starting =>
    have same := exec_sale (prepareReturn sold orderId returnItems) s
    simp only [Stage.advance] at advanced
    split at advanced <;> (rename_i ran; cases advanced; rw [ran] at same; exact same)
  | between steps k =>
    cases steps with
    | nil => cases advanced; exact exec_sale _ s
    | cons step rest =>
      have same := exec_sale (runFilter step k) s
      simp only [Stage.advance] at advanced
      split at advanced <;> (rename_i ran; cases advanced; rw [ran] at same; exact same)
  | ended => cases advanced

theorem advance_placed (placed : Placed returnItems (step::rest) k s)
    (advanced : (Stage.between (step::rest) k).advance sold orderId returnItems s = some (next,t)) :
    (∃ k', next = .between rest k' ∧ Placed returnItems rest k' t) ∨ next = .ended ∧ Settled returnItems t := by
  have after := exec_meets (step_after answered_harmless placed)
  simp only [Stage.advance] at advanced
  split at advanced
  · rename_i k' u ran
    cases advanced
    rw [ran] at after
    exact .inl ⟨k',rfl,after⟩
  · rename_i e u ran
    cases advanced
    rw [ran] at after
    exact .inr ⟨rfl,after⟩

theorem placed_rest (placed : Placed returnItems (step::rest) k s)
    (refunding : Stage.refunding (.between (step::rest) k) = true) :
    rest = [] ∨ ∀ k', Stage.refunding (.between rest k') = true := by
  generalize equal : step::rest = steps at placed
  cases placed with
  | requested => obtain ⟨rfl,rfl⟩ := List.cons.inj equal; cases refunding
  | determined => obtain ⟨rfl,rfl⟩ := List.cons.inj equal; cases refunding
  | created => obtain ⟨rfl,rfl⟩ := List.cons.inj equal; exact .inl rfl
  | finished => cases equal
  | _ => obtain ⟨rfl,rfl⟩ := List.cons.inj equal; exact .inr fun _ => rfl

theorem placed_classified (payable : refundable (expanded s) = true) (placed : Placed returnItems rest k s)
    (refunding : rest = [] ∨ ∀ k', Stage.refunding (.between rest k') = true) :
    Outside returnItems s (.between rest k) ∧ Settled returnItems s ∨ Inside returnItems s (.between rest k) := by
  cases rest with
  | nil => exact .inl ⟨⟨payable,.inl rfl⟩,placed_nil placed⟩
  | cons step rest => exact .inr (.between payable ((refunding.resolve_left (by simp)) k) placed)

theorem inside_advance {stage next : Stage} (inside : Inside returnItems s stage)
    (advanced : stage.advance sold orderId returnItems s = some (next,t)) :
    Outside returnItems t next ∧ Settled returnItems t ∨ Inside returnItems t next := by
  have same := advance_sale advanced
  obtain ⟨payable,refunding,placed⟩ := inside
  rw [← refundable_sale same] at payable
  rcases advance_placed placed advanced with ⟨k',rfl,after⟩ | ⟨rfl,settled⟩
  · exact placed_classified payable after (placed_rest placed refunding)
  · exact .inl ⟨trivial,settled⟩

theorem starting_advance {next : Stage} (advanced : Stage.starting.advance sold orderId returnItems s = some (next,t)) :
    ∃ out, Prepared returnItems s out t ∧ Outside returnItems t next := by
  have prepared : Prepared returnItems s _ _ := exec_meets (prepare_prepared sold orderId)
  simp only [Stage.advance] at advanced
  split at advanced
  · rename_i k u ran
    cases advanced
    rw [ran] at prepared
    obtain ⟨requested,payable⟩ := prepared.2.2.2 k rfl
    rw [← refundable_sale prepared.2.1] at payable
    exact ⟨_,prepared,payable,.inr ⟨requested,.inl rfl⟩⟩
  · rename_i out u _ ran
    cases advanced
    rw [ran] at prepared
    exact ⟨_,prepared,trivial⟩

theorem outside_idle {stage next : Stage} (outside : Outside returnItems s stage) (payable : refundable (expanded s) = true)
    (elsewhere : stage.fetches = false) (advanced : stage.advance sold orderId returnItems s = some (next,t)) :
    t = s ∧ Outside returnItems t next := by
  cases stage with
  | starting =>
    obtain ⟨out,prepared,placed⟩ := starting_advance advanced
    exact ⟨prepared.1 payable,placed⟩
  | between steps k =>
    obtain ⟨_,rfl | ⟨requested,rfl | rfl⟩⟩ := outside
    · have unchanged := exec_meets (revoke_unchanged sold returnItems k (s := s))
      cases advanced
      exact ⟨unchanged,trivial⟩
    · cases advanced
      exact ⟨rfl,payable,.inr ⟨⟨requested.lines,requested.fetched,requested.response,requested.accepted⟩,.inr rfl⟩⟩
    · cases elsewhere
  | ended => cases advanced

theorem outside_advance {stage next : Stage} (outside : Outside returnItems s stage) (settled : Settled returnItems s)
    (advanced : stage.advance sold orderId returnItems s = some (next,t)) :
    Outside returnItems t next ∧ Settled returnItems t ∨ Inside returnItems t next := by
  cases fetching : stage.fetches with
  | false =>
    cases stage with
    | starting =>
      obtain ⟨out,prepared,placed⟩ := starting_advance advanced
      exact .inl ⟨placed,settled.prepared prepared⟩
    | between steps k =>
      obtain ⟨rfl,placed⟩ := outside_idle outside outside.1 fetching advanced
      exact .inl ⟨placed,settled⟩
    | ended => cases advanced
  | true =>
    have same := advance_sale advanced
    cases stage with
    | between steps k =>
      obtain ⟨payable,rfl | ⟨requested,rfl | rfl⟩⟩ := outside
      · cases fetching
      · cases fetching
      · have placed : Placed returnItems (orderRefundRequested.drop 1) k s := .determined requested payable settled
        rw [← refundable_sale same] at payable
        rcases advance_placed placed advanced with ⟨k',rfl,after⟩ | ⟨rfl,settled⟩
        · exact placed_classified payable after (.inr fun _ => rfl)
        · exact .inl ⟨trivial,settled⟩
    | _ => cases fetching

variable {ι : Type} [DecidableEq ι]

-- At most one delivery is refunding, and outside it nothing is left unrecorded.
def Ordered (returnItems : List ReturnedItem) (c : Deliveries ι) : Prop :=
  (∀ j, Outside returnItems c.ledger (c.runs j)) ∧ Settled returnItems c.ledger ∨
  ∃ i, Inside returnItems c.ledger (c.runs i) ∧ ∀ j, j ≠ i → Outside returnItems c.ledger (c.runs j)

theorem ordered_advance {c : Deliveries ι} {stage : Stage} (i : ι)
    (others : ∀ j, j ≠ i → Outside returnItems c.ledger (c.runs j)) (same : saleOf t = saleOf c.ledger)
    (own : Outside returnItems t stage ∧ Settled returnItems t ∨ Inside returnItems t stage) :
    Ordered returnItems ⟨t,Function.update c.runs i stage⟩ := by
  have kept : ∀ j, j ≠ i → Outside returnItems t (Function.update c.runs i stage j) := by
    intro j other
    rw [Function.update_of_ne other]
    exact (others j other).sale same
  rcases own with ⟨outside,settled⟩ | inside
  · refine .inl ⟨?_,settled⟩
    intro j
    by_cases own : j = i
    · subst j; simpa using outside
    · exact kept j own
  · exact .inr ⟨i,by simpa using inside,kept⟩

theorem deliver_ordered {c next : Deliveries ι} {i : ι} (ordered : Ordered returnItems c) (alone : ReadsAlone c i)
    (delivered : deliver sold orderId returnItems c i = some next) : Ordered returnItems next := by
  obtain ⟨⟨stage,t⟩,advanced,rfl⟩ := Option.map_eq_some_iff.mp delivered
  have same := advance_sale advanced
  change Ordered returnItems ⟨t,Function.update c.runs i stage⟩
  rcases ordered with ⟨outside,settled⟩ | ⟨owner,inside,others⟩
  · exact ordered_advance i (fun j _ => outside j) same (outside_advance (outside i) settled advanced)
  · by_cases own : i = owner
    · subst owner
      exact ordered_advance i others same (inside_advance inside advanced)
    · -- the owner is between its reading and its writing, so this run does not read
      have elsewhere : (c.runs i).fetches = false := by
        by_contra fetching
        have free := alone (by simpa using fetching) owner (Ne.symm own)
        generalize c.runs owner = stage at inside free
        cases inside with
        | between _ refunding _ =>
          rw [free] at refunding
          cases refunding
      have payable : refundable (expanded c.ledger) = true := by
        generalize c.runs owner = stage at inside
        cases inside with
        | between payable _ _ => exact payable
      obtain ⟨rfl,outside⟩ := outside_idle (others i own) payable elsewhere advanced
      refine .inr ⟨owner,?_,?_⟩
      · simpa only [Function.update_of_ne (Ne.symm own)] using inside
      · intro j other
        by_cases this : j = i
        · subst j; simpa using outside
        · simpa only [Function.update_of_ne this] using others j other

theorem placed_once (placed : Placed returnItems steps k s) : ∀ item ∈ returnItems, covered item.lineItemId s ≤ 1 := by
  cases placed with
  | requested _ _ settled => exact settled.once
  | determined _ _ settled => exact settled.once
  | unfetched _ settled => exact settled.once
  | fetched _ _ unasked => exact unasked.settled.once
  | stripe _ _ outcome _ => exact outcome.elim (·.1.once) (·.once)
  | paypal _ _ outcome => exact outcome.elim (·.1.once) (·.once)
  | created _ outcome => exact outcome.elim (·.1.once) (·.once)
  | finished settled => exact settled.once

omit [DecidableEq ι] in
theorem Ordered.once {c : Deliveries ι} (ordered : Ordered returnItems c) :
    ∀ item ∈ returnItems, covered item.lineItemId c.ledger ≤ 1 := by
  rcases ordered with ⟨_,settled⟩ | ⟨owner,inside,_⟩
  · exact settled.once
  · generalize c.runs owner = stage at inside
    cases inside with
    | between _ _ placed => exact placed_once placed

theorem concurrent_deliveries_refund_once (sold : Sale) (orderId : String) (returnItems : List ReturnedItem) (ledger : Ledger)
    (announced : Announced returnItems ledger)
    (path : RunsWhen (deliver (ι := ι) sold orderId returnItems) ReadsAlone ⟨ledger,fun _ => .starting⟩ events c)
    (item : ReturnedItem) (member : item ∈ returnItems) : covered item.lineItemId c.ledger ≤ 1 := by
  have ordered := path.preserves (Ordered returnItems) (.inl ⟨fun _ => trivial,announced.settled⟩)
    fun _ _ _ ordered alone delivered => deliver_ordered ordered alone delivered
  exact ordered.once item member

end Interleaved

section Sequential
variable {sold : Sale} {returnItems : List ReturnedItem} {ledger after : Ledger}

-- One delivery, or one retry of a failed one, run to its end: `answers` says of
-- each of its calls whether Commercetools answers it.
def redeliver (sold : Sale) (orderId : String) (returnItems : List ReturnedItem) (s : Ledger) (answers : List Bool) : Option Ledger :=
  (Prog.replay serve (fun _ _ _ => true) (fulfillOrderReturnedSignalTask sold orderId returnItems) answers s).map (·.2)

instance : Decidable (Harmless returnItems answers s r) := inferInstanceAs (Decidable (_ → _ → _))

def RecordsRefunds (sold : Sale) (orderId : String) (returnItems : List ReturnedItem) (s : Ledger) (answers : List Bool) : Prop :=
  (Prog.replay serve (fun answers s r => decide (Harmless returnItems answers s r))
    (fulfillOrderReturnedSignalTask sold orderId returnItems) answers s).isSome = true

instance : Decidable (RecordsRefunds sold orderId returnItems s answers) := inferInstanceAs (Decidable (_ = _))

theorem redeliver_settles (settled : Settled returnItems s) (records : RecordsRefunds sold orderId returnItems s answers)
    (delivered : redeliver sold orderId returnItems s answers = some t) : Settled returnItems t := by
  obtain ⟨⟨out,u⟩,ran⟩ := Option.isSome_iff_exists.mp records
  have same : t = u := by
    rw [redeliver,Prog.replay_untested ran] at delivered
    exact (Option.some.inj delivered).symm
  rw [same]
  have settles : Meets (fun answers s r => decide (Harmless returnItems answers s r) = true)
      (fun _ t => Settled returnItems t) (fulfillOrderReturnedSignalTask sold orderId returnItems) s :=
    task_settles (fun _ _ _ ok => of_decide_eq_true ok) settled sold orderId
  exact Prog.wp_replay settles ran

theorem sequential_deliveries_refund_once (sold : Sale) (orderId : String) (returnItems : List ReturnedItem) (ledger : Ledger)
    (announced : Announced returnItems ledger)
    (path : RunsWhen (redeliver sold orderId returnItems) (RecordsRefunds sold orderId returnItems) ledger deliveries after)
    (item : ReturnedItem) (member : item ∈ returnItems) : covered item.lineItemId after ≤ 1 := by
  have settled := path.preserves (Settled returnItems) announced.settled
    fun _ _ _ settled records delivered => redeliver_settles settled records delivered
  exact settled.once item member

end Sequential

-- One item of two is returned, so that the rest of the charge covers a second
-- refund of it.
def soldLedger : Ledger :=
  let payment : Payment := ⟨"payment",1,some "intent",some "intent",⟨100,"USD",some 2⟩,
    some edxStripePaymentInterfaceName,some paymentStatusInterfaceCodeSucceeded,
    [⟨"charge",0,.charge,⟨100,"USD",some 2⟩,some "charge",.success,none⟩]⟩
  ⟨⟨"order",1,"customer",false,[⟨"first",1,⟨60,"USD",some 2⟩,[],none⟩,⟨"second",1,⟨40,"USD",some 2⟩,[],none⟩],
    ⟨100,"USD",some 2⟩,[[⟨"return","second",.initial,none,none⟩]],[payment]⟩,payment,⟨"intent",100,"usd",[]⟩⟩

def returnedSecond : List ReturnedItem := [⟨"return","second"⟩]

def bothSold : Sale := courseSale ["first","second"]

theorem announced_second : Announced returnedSecond soldLedger :=
  ⟨by
    intro item member
    cases List.mem_singleton.mp member
    exact ⟨_,List.mem_singleton.mpr rfl,rfl,rfl⟩,by decide,by decide⟩

-- Both deliveries read INITIAL before either asks the provider.
def bothRead : List Bool := [false,false,false,true,true,true,false,true]

theorem concurrent_deliveries_refund_twice :
    Announced returnedSecond soldLedger ∧
    ∃ c, run (deliver bothSold "order" returnedSecond) ⟨soldLedger,fun _ => .starting⟩ bothRead = some c ∧
      covered "second" c.ledger = 2 := by
  refine ⟨announced_second,?_⟩
  have ran : (run (deliver bothSold "order" returnedSecond) ⟨soldLedger,fun _ => .starting⟩ bothRead).map
      (fun c => covered "second" c.ledger) = some 2 := by decide +kernel
  obtain ⟨c,reached,twice⟩ := Option.map_eq_some_iff.mp ran
  exact ⟨c,reached,twice⟩

instance (c : Deliveries Bool) (i : Bool) : Decidable (ReadsAlone c i) :=
  inferInstanceAs (Decidable (_ → ∀ _, _ → _))

-- The second delivery starts during the first, and reads after it has marked
-- the return.
def readLater : List Bool := [false,false,false,true,true,false,false,false,false,true,true,true,true,true,false,true]

theorem later_delivery_refunds_nothing :
    ∃ c, run (deliver bothSold "order" returnedSecond) ⟨soldLedger,fun _ => .starting⟩ readLater = some c ∧
      covered "second" c.ledger ≤ 1 := by
  have ran : (guardedRun (deliver bothSold "order" returnedSecond) (fun c i => decide (ReadsAlone c i))
      ⟨soldLedger,fun _ => .starting⟩ readLater).isSome = true := by decide +kernel
  have path : RunsWhen (deliver bothSold "order" returnedSecond) ReadsAlone ⟨soldLedger,fun _ => .starting⟩ readLater _ :=
    RunsWhen.nil.guarded (fun _ _ tested => of_decide_eq_true tested) (Option.some_get ran).symm
  exact ⟨_,path.sound,concurrent_deliveries_refund_once bothSold "order" returnedSecond soldLedger announced_second path
    ⟨"return","second"⟩ (List.mem_singleton.mpr rfl)⟩

-- The update that marks the return fails, after the provider's refund and the
-- transaction for it; the message is delivered again.
def updateFails : List (List Bool) := [List.replicate 7 true++[false],List.replicate 10 true]

theorem sequential_deliveries_refund_twice :
    Announced returnedSecond soldLedger ∧
    ∃ after, run (redeliver bothSold "order" returnedSecond) soldLedger updateFails = some after ∧ covered "second" after = 2 := by
  refine ⟨announced_second,?_⟩
  have ran : (run (redeliver bothSold "order" returnedSecond) soldLedger updateFails).map (covered "second") = some 2 := by
    decide +kernel
  obtain ⟨after,reached,twice⟩ := Option.map_eq_some_iff.mp ran
  exact ⟨after,reached,twice⟩

-- The transaction is not created, the next delivery finds the return marked,
-- and the one after it does not reach Commercetools at all.
def creationFails : List (List Bool) :=
  [List.replicate 5 true++[false]++List.replicate 3 true,List.replicate 6 true,[false]]

theorem creation_failure_survived :
    ∃ after, run (redeliver bothSold "order" returnedSecond) soldLedger creationFails = some after ∧ covered "second" after ≤ 1 := by
  have ran : (guardedRun (redeliver bothSold "order" returnedSecond)
      (fun s answers => decide (RecordsRefunds bothSold "order" returnedSecond s answers)) soldLedger creationFails).isSome =
        true := by decide +kernel
  have path : RunsWhen (redeliver bothSold "order" returnedSecond) (RecordsRefunds bothSold "order" returnedSecond) soldLedger
      creationFails _ := RunsWhen.nil.guarded (fun _ _ tested => of_decide_eq_true tested) (Option.some_get ran).symm
  exact ⟨_,path.sound,sequential_deliveries_refund_once bothSold "order" returnedSecond soldLedger announced_second path
    ⟨"return","second"⟩ (List.mem_singleton.mpr rfl)⟩

end Redelivery
