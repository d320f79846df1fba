import CommerceCoordinator.RefundLinks

open Commercetools CallTree PaymentTransactions OrderReturn CommercetoolsClient RefundPipeline RefundOutcome

-- Which refund transaction a return item is linked to, and which return a
-- transaction, after any sequence of returns.
namespace RefundLinks

def Names (s : State) (returnItemIds : List String) (transactionId : String) : Prop :=
  ∃ transaction ∈ s.ledger.payment.transactions, transaction.id = transactionId ∧ transaction.type = .refund ∧
    ∃ issue ∈ s.issued, transaction.interactionId = some issue.refundId ∧ issue.returnItemIds = returnItemIds

def NamesNone (s : State) (transactionId : String) : Prop :=
  ∀ transaction ∈ s.ledger.payment.transactions, transaction.type = .refund → transaction.id ≠ transactionId

-- An empty text is no transaction id to any reader of the field.
def Linked (s : State) (update : Update) : OrderUpdateAction → Prop
  | .setReturnItemCustomType returnItemId transactionId _ =>
    (transactionId ≠ "" → Names s update.returnItemIds transactionId) ∧
      (.setReturnPaymentState returnItemId .notRefunded ∈ update.actions → NamesNone s transactionId)
  | .setReturnPaymentState _ _ => True

def Faithful (s : State) : Prop := ∀ update ∈ s.updates, ∀ action ∈ update.actions, Linked s update action

def LinksKept (s t : State) : Prop :=
  ∀ transaction ∈ s.ledger.payment.transactions, transaction.type = .refund → ∀ link, transaction.returnItemId = some link →
    ∃ later ∈ t.ledger.payment.transactions, later.id = transaction.id ∧ later.type = .refund ∧ later.returnItemId = some link

instance : Decidable (Names s returnItemIds transactionId) := inferInstanceAs (Decidable (∃ _ ∈ _, _))
instance : Decidable (NamesNone s transactionId) := inferInstanceAs (Decidable (∀ _ ∈ _, _))
instance : (action : OrderUpdateAction) → Decidable (Linked s update action)
  | .setReturnPaymentState _ _ => instDecidableTrue
  | .setReturnItemCustomType _ _ _ => inferInstanceAs (Decidable ((_ → _) ∧ (_ → _)))
instance : Decidable (Faithful s) := inferInstanceAs (Decidable (∀ _ ∈ _, _))
instance : Decidable (LinksKept s t) :=
  inferInstanceAs (Decidable (∀ transaction ∈ s.ledger.payment.transactions, transaction.type = .refund →
    ∀ link ∈ transaction.returnItemId, ∃ later ∈ t.ledger.payment.transactions,
      later.id = transaction.id ∧ later.type = .refund ∧ later.returnItemId = some link))

-- A provider gives every refund an id of its own.
def Fresh (s : State) (r : Return) : Prop :=
  ∀ refundId ∈ r.refundIds, (∀ issue ∈ s.issued, issue.refundId ≠ refundId) ∧
    ∀ transaction ∈ s.ledger.payment.transactions, transaction.interactionId ≠ some refundId

def Latest (payment : Payment) (transaction : Transaction) : Prop :=
  ∀ other ∈ payment.transactions, other.type = .refund → other.timestamp ≤ transaction.timestamp

-- Where a return's links come from, when it arrives with these kwargs: a line
-- item refunded before, the provider's refund, or what else is on the payment.
structure Sound (r : Return) (k : Kwargs) (s : State) : Prop where
  earlier : ∀ entry ∈ r.returnLineItems, ∀ transactionId, refundedWith s.ledger.order entry.1 = some transactionId →
    k.pspRefundError = false ∧ Names s r.ids transactionId
  issued : recorded r k s.ledger.payment = true → ∀ refund, k.refundResponse = some (.refund refund) →
    ⟨refund.id,r.ids⟩ ∈ s.issued
  others : recorded r k s.ledger.payment = false → ∀ transaction ∈ s.ledger.payment.transactions, transaction.type = .refund →
    transaction.interactionId = interactionId k ∨ Latest s.ledger.payment transaction →
      k.pspRefundError = false ∧ Names s r.ids transaction.id

section Lookups
variable {payment : Payment} {order : Order}

-- Commercetools gives every transaction an id of its own, and numbers those to
-- come.
structure Numbered (payment : Payment) : Prop where
  distinct : (payment.transactions.map (·.id)).Nodup
  named : ∀ transaction ∈ payment.transactions, transaction.id ≠ ""
  next : ∀ n, payment.transactions.length ≤ n → payment.id++"/"++toString n ∉ payment.transactions.map (·.id)

theorem number_injective {m n : Nat} (same : payment.id++"/"++toString m = payment.id++"/"++toString n) : m = n := by
  have digits := congrArg String.toList ((String.append_right_inj _).mp same)
  have read := congrArg (Nat.ofDigitChars 10 · 0) digits
  simpa only [toString,Nat.toList_repr,Nat.ofDigitChars_ten_toDigits] using read

theorem Numbered.add (numbered : Numbered payment) (draft : TransactionDraft) : Numbered (addTransaction payment draft) := by
  have ids : (addTransaction payment draft).transactions.map (·.id) =
      payment.transactions.map (·.id)++[payment.id++"/"++toString payment.transactions.length] := by
    simp [addTransaction]
  refine ⟨?_,?_,?_⟩
  · rw [ids,List.nodup_append]
    refine ⟨numbered.distinct,List.nodup_singleton _,?_⟩
    intro id member new added same
    rw [same,List.mem_singleton.mp added] at member
    exact numbered.next _ le_rfl member
  · intro transaction member
    rcases List.mem_append.mp member with before | new
    · exact numbered.named transaction before
    · cases List.mem_singleton.mp new
      simp
  · intro n later member
    rw [ids] at member
    have length : (addTransaction payment draft).transactions.length = payment.transactions.length+1 := by
      simp [addTransaction]
    rcases List.mem_append.mp member with before | new
    · exact numbered.next n (by omega) before
    · have same := @number_injective payment _ _ (List.mem_singleton.mp new)
      omega

theorem latest_refund_cases (payment : Payment) : findLatestRefund payment = "" ∨
    ∃ transaction ∈ payment.transactions, transaction.type = .refund ∧ findLatestRefund payment = transaction.id ∧
      Latest payment transaction := by
  let later : Transaction → Transaction → Prop := fun a b => b.timestamp ≤ a.timestamp
  have total : Std.Total later := ⟨fun a b => le_total b.timestamp a.timestamp⟩
  have transitive : IsTrans Transaction later := ⟨fun a b c ab bc => le_trans bc ab⟩
  have sorted := List.pairwise_insertionSort later payment.transactions
  unfold findLatestRefund
  dsimp only
  cases found : (payment.transactions.insertionSort later).find? (·.type = .refund) with
  | none => exact .inl rfl
  | some transaction =>
    refine .inr ⟨transaction,(List.mem_insertionSort later).mp (List.mem_of_find?_eq_some found),
      by simpa using List.find?_some found,rfl,?_⟩
    intro other member refund
    obtain ⟨_,earlier,rest,split,skipped⟩ := List.find?_eq_some_iff_append.mp found
    have listed : other ∈ earlier++transaction::rest := split ▸ (List.mem_insertionSort later).mpr member
    rcases List.mem_append.mp listed with before | following
    · exact absurd (skipped other before) (by simp [refund])
    · rcases List.mem_cons.mp following with rfl | after
      · exact le_rfl
      · rw [split] at sorted
        exact List.rel_of_pairwise_cons (List.pairwise_append.mp sorted).2.1 after

theorem refund_transaction_cases (numbered : Numbered payment) (interactionId : Option String) :
    refundTransactionId payment interactionId = "" ∨ ∃ transaction ∈ payment.transactions, transaction.type = .refund ∧
      refundTransactionId payment interactionId = transaction.id ∧ (transaction.interactionId = interactionId ∨
        Latest payment transaction ∧ ∀ other ∈ payment.transactions, isRefund interactionId other = false) := by
  unfold refundTransactionId
  cases found : payment.transactions.find? (isRefund interactionId) with
  | some transaction =>
    have member := List.mem_of_find?_eq_some found
    have sought : transaction.type = .refund ∧ transaction.interactionId = interactionId := by
      simpa [isRefund] using List.find?_some found
    refine .inr ⟨transaction,member,sought.1,?_,.inl sought.2⟩
    simp [findRefundTransaction,found,numbered.named transaction member]
  | none =>
    have none_found : findRefundTransaction payment interactionId = "" := by simp [findRefundTransaction,found]
    simp only [none_found,if_true]
    rcases latest_refund_cases payment with absent | ⟨transaction,member,refund,same,latest⟩
    · exact .inl absent
    · refine .inr ⟨transaction,member,refund,same,.inr ⟨latest,fun other listed => ?_⟩⟩
      simpa using List.find?_eq_none.mp found other listed

theorem linked_ids (payment : Payment) (transactionId : String) (returnItemIds : List String) :
    (linkTransaction payment transactionId returnItemIds).transactions.map (·.id) = payment.transactions.map (·.id) := by
  unfold linkTransaction
  split
  · rfl
  · simp only [relink,List.map_map]
    refine List.map_congr_left fun transaction _ => ?_
    simp only [Function.comp_apply]
    split <;> rfl

theorem Numbered.link (numbered : Numbered payment) (transactionId : String) (returnItemIds : List String) :
    Numbered (linkTransaction payment transactionId returnItemIds) := by
  have ids := linked_ids payment transactionId returnItemIds
  have length : (linkTransaction payment transactionId returnItemIds).transactions.length = payment.transactions.length := by
    simpa using congrArg List.length ids
  have same : (linkTransaction payment transactionId returnItemIds).id = payment.id := by
    unfold linkTransaction
    split <;> rfl
  refine ⟨by rw [ids]; exact numbered.distinct,?_,by rw [ids,length,same]; exact numbered.next⟩
  intro transaction member
  have listed : transaction.id ∈ payment.transactions.map (·.id) := ids ▸ List.mem_map_of_mem member
  obtain ⟨before,present,equal⟩ := List.mem_map.mp listed
  rw [← equal]
  exact numbered.named before present

def relinked (transactionId : String) (returnItemIds : List String) (transaction : Transaction) : Transaction :=
  if transactionId ≠ "" ∧ transaction.id = transactionId then {transaction with returnItemId := some (", ".intercalate returnItemIds)}
  else transaction

theorem linked_transactions (payment : Payment) (transactionId : String) (returnItemIds : List String) :
    (linkTransaction payment transactionId returnItemIds).transactions =
      payment.transactions.map (relinked transactionId returnItemIds) := by
  unfold linkTransaction
  split
  · rename_i empty
    have unchanged : relinked transactionId returnItemIds = id := funext fun transaction => by simp [relinked,empty]
    rw [unchanged,List.map_id]
  · rename_i named
    simp [relink,relinked,named]

theorem relinked_frame (transactionId : String) (returnItemIds : List String) (transaction : Transaction) :
    (relinked transactionId returnItemIds transaction).id = transaction.id ∧
      (relinked transactionId returnItemIds transaction).type = transaction.type ∧
      (relinked transactionId returnItemIds transaction).interactionId = transaction.interactionId := by
  unfold relinked
  split <;> exact ⟨rfl,rfl,rfl⟩

end Lookups

section Invariant
variable {r : Return} {s t u : State} {k : Kwargs} {payment : Payment} {transactionId : String} {returnItemIds : List String}

structure Tracked (s : State) : Prop where
  numbered : Numbered s.ledger.payment
  single : ∀ a ∈ s.issued, ∀ b ∈ s.issued, a.refundId = b.refundId → a.returnItemIds = b.returnItemIds
  links : ∀ transaction ∈ s.ledger.payment.transactions, ∀ issue ∈ s.issued, transaction.interactionId = some issue.refundId →
    ∀ link, transaction.returnItemId = some link → link = ", ".intercalate issue.returnItemIds
  faithful : Faithful s

theorem LinksKept.refl (s : State) : LinksKept s s := fun transaction member refund _ link =>
  ⟨transaction,member,rfl,refund,link⟩

theorem LinksKept.trans (first : LinksKept s t) (later : LinksKept t u) : LinksKept s u := by
  intro transaction member refund link linked
  obtain ⟨middle,present,same,refund,linked⟩ := first transaction member refund link linked
  obtain ⟨final,present,same',refund,linked⟩ := later middle present refund link linked
  exact ⟨final,present,same'.trans same,refund,linked⟩

theorem Linked.later {update : Update} {action : OrderUpdateAction} (linked : Linked s update action)
    (names : ∀ ids transactionId, Names s ids transactionId → Names t ids transactionId)
    (namesNone : ∀ transactionId, NamesNone s transactionId → NamesNone t transactionId) : Linked t update action := by
  cases action with
  | setReturnPaymentState returnItemId paymentState => trivial
  | setReturnItemCustomType returnItemId transactionId entitlement =>
    exact ⟨fun named => names _ _ (linked.1 named),fun refused => namesNone _ (linked.2 refused)⟩

theorem Faithful.later (faithful : Faithful s) (updates : t.updates = s.updates)
    (names : ∀ ids transactionId, Names s ids transactionId → Names t ids transactionId)
    (namesNone : NamesNone t "") : Faithful t := by
  intro update member action listed
  rw [updates] at member
  have linked := faithful update member action listed
  cases action with
  | setReturnPaymentState returnItemId paymentState => trivial
  | setReturnItemCustomType returnItemId transactionId entitlement =>
    refine ⟨fun named => names _ _ (linked.1 named),fun refused => ?_⟩
    have none_named : transactionId = "" := by
      by_contra named
      obtain ⟨transaction,present,same,refund,_⟩ := linked.1 named
      exact linked.2 refused transaction present refund same
    rw [none_named]
    exact namesNone

theorem Numbered.none_empty (numbered : Numbered s.ledger.payment) : NamesNone s "" :=
  fun transaction member _ => numbered.named transaction member

theorem Provided.names (provided : Provided r s t) (names : Names s returnItemIds transactionId) :
    Names t returnItemIds transactionId := by
  obtain ⟨transaction,member,same,refund,issue,issued,found⟩ := names
  rw [← provided.ledger] at member
  exact ⟨transaction,member,same,refund,issue,provided.kept issue issued,found⟩

theorem Tracked.provided (tracked : Tracked s) (fresh : Fresh s r) (provided : Provided r s t) : Tracked t := by
  have numbered : Numbered t.ledger.payment := by
    rw [provided.ledger]
    exact tracked.numbered
  refine ⟨numbered,?_,?_,tracked.faithful.later provided.updates (fun _ _ => provided.names) numbered.none_empty⟩
  · intro a memberA b memberB same
    rcases provided.added a memberA with oldA | ⟨newA,idsA⟩
    · rcases provided.added b memberB with oldB | ⟨newB,_⟩
      · exact tracked.single a oldA b oldB same
      · exact absurd same ((fresh _ newB).1 a oldA)
    · rcases provided.added b memberB with oldB | ⟨_,idsB⟩
      · exact absurd same.symm ((fresh _ newA).1 b oldB)
      · rw [idsA,idsB]
  · intro transaction member issue issued interaction
    rw [provided.ledger] at member
    rcases provided.added issue issued with old | ⟨new,_⟩
    · exact tracked.links transaction member issue old interaction
    · exact absurd interaction ((fresh _ new).2 transaction member)

theorem Tracked.added (tracked : Tracked s) (draft : TransactionDraft) :
    Tracked (s.pay (addTransaction s.ledger.payment draft)) := by
  have numbered := tracked.numbered.add draft
  refine ⟨numbered,tracked.single,?_,tracked.faithful.later rfl ?_ (Numbered.none_empty numbered)⟩
  · intro transaction member issue issued interaction link linked
    rcases List.mem_append.mp member with before | new
    · exact tracked.links transaction before issue issued interaction link linked
    · cases List.mem_singleton.mp new
      cases linked
  · intro ids transactionId names
    obtain ⟨transaction,member,found⟩ := names
    exact ⟨transaction,List.mem_append_left _ member,found⟩

theorem added_links_kept (draft : TransactionDraft) : LinksKept s (s.pay (addTransaction s.ledger.payment draft)) :=
  fun transaction member refund _ linked => ⟨transaction,List.mem_append_left _ member,rfl,refund,linked⟩

theorem Tracked.own (tracked : Tracked s) (names : Names s returnItemIds transactionId) {transaction : Transaction}
    (member : transaction ∈ s.ledger.payment.transactions) (same : transaction.id = transactionId) :
    ∃ issue ∈ s.issued, transaction.interactionId = some issue.refundId ∧ issue.returnItemIds = returnItemIds := by
  obtain ⟨named,present,found,_,issue,issued,interaction⟩ := names
  have equal := List.inj_on_of_nodup_map tracked.numbered.distinct member present (same.trans found.symm)
  exact ⟨issue,issued,equal ▸ interaction⟩

theorem link_names {ids : List String} {id : String} (names : Names s ids id) :
    Names (s.pay (linkTransaction s.ledger.payment transactionId returnItemIds)) ids id := by
  obtain ⟨transaction,member,same,refund,issue,issued,interaction,for_ids⟩ := names
  obtain ⟨kept,type,asked⟩ := relinked_frame transactionId returnItemIds transaction
  refine ⟨relinked transactionId returnItemIds transaction,?_,kept.trans same,type.trans refund,issue,issued,
    asked.trans interaction,for_ids⟩
  simp only [State.pay,linked_transactions]
  exact List.mem_map_of_mem member

theorem link_names_none {id : String} (none_named : NamesNone s id) :
    NamesNone (s.pay (linkTransaction s.ledger.payment transactionId returnItemIds)) id := by
  intro transaction member refund
  simp only [State.pay,linked_transactions] at member
  obtain ⟨before,present,rfl⟩ := List.mem_map.mp member
  obtain ⟨kept,type,_⟩ := relinked_frame transactionId returnItemIds before
  rw [kept]
  exact none_named before present (type.symm.trans refund)

theorem Tracked.link (tracked : Tracked s) (names : transactionId ≠ "" → Names s returnItemIds transactionId) :
    Tracked (s.pay (linkTransaction s.ledger.payment transactionId returnItemIds)) ∧
      LinksKept s (s.pay (linkTransaction s.ledger.payment transactionId returnItemIds)) := by
  have numbered := tracked.numbered.link transactionId returnItemIds
  refine ⟨⟨numbered,tracked.single,?_,?_⟩,?_⟩
  · intro transaction member issue issued interaction link linked
    simp only [State.pay,linked_transactions] at member
    obtain ⟨before,present,rfl⟩ := List.mem_map.mp member
    rw [(relinked_frame transactionId returnItemIds before).2.2] at interaction
    unfold relinked at linked
    split at linked
    · rename_i set
      cases linked
      obtain ⟨other,issued',interaction',for_ids⟩ := tracked.own (names set.1) present set.2
      have same : other.refundId = issue.refundId := Option.some.inj (interaction'.symm.trans interaction)
      rw [← for_ids,tracked.single other issued' issue issued same]
    · exact tracked.links before present issue issued interaction link linked
  · exact tracked.faithful.later rfl (fun _ _ => link_names) (Numbered.none_empty numbered)
  · intro transaction member refund link linked
    obtain ⟨kept,type,_⟩ := relinked_frame transactionId returnItemIds transaction
    refine ⟨relinked transactionId returnItemIds transaction,?_,kept,type.trans refund,?_⟩
    · simp only [State.pay,linked_transactions]
      exact List.mem_map_of_mem member
    · unfold relinked
      split
      · rename_i set
        obtain ⟨issue,issued,interaction,for_ids⟩ := tracked.own (names set.1) member set.2
        rw [tracked.links transaction member issue issued interaction link linked,for_ids]
      · exact linked

theorem Records.names (records : Records r k t.ledger.payment payment) (names : Names t returnItemIds transactionId) :
    Names (t.pay payment) returnItemIds transactionId := by
  rcases records with ⟨_,rfl⟩ | ⟨_,refund,psp,_,rfl⟩
  · exact names
  · obtain ⟨transaction,member,found⟩ := names
    exact ⟨transaction,List.mem_append_left _ member,found⟩

theorem lookup_names (numbered : Numbered payment) (records : Records r k t.ledger.payment payment) (sound : Sound r k t)
    (noError : ∀ refund, k.refundResponse = some (.refund refund) → k.pspRefundError = false) :
    refundTransactionId payment (interactionId k) = "" ∨ k.pspRefundError = false ∧
      Names (t.pay payment) r.ids (refundTransactionId payment (interactionId k)) := by
  rcases refund_transaction_cases numbered (interactionId k) with absent | ⟨transaction,member,refund,same,found⟩
  · exact .inl absent
  · rw [same]
    right
    rcases records with ⟨unrecorded,rfl⟩ | ⟨called,object,psp,response,rfl⟩
    · exact sound.others unrecorded transaction member refund (found.imp id And.left)
    · have asked : interactionId k = some object.id := by simp [interactionId,response]
      rw [asked] at found
      refine ⟨noError object response,transaction,member,rfl,refund,⟨object.id,r.ids⟩,sound.issued called object response,?_,rfl⟩
      -- the refund has just been recorded, so the first lookup cannot miss it
      refine found.resolve_right fun missed => ?_
      have recorded := missed.2 _ (List.mem_append_right _ List.mem_cons_self)
      simp [isRefund,refundTransactionDraft,preprocessRefundObject] at recorded

theorem written_names (records : Records r k t.ledger.payment payment) (sound : Sound r k t)
    (found : transactionId = "" ∨ k.pspRefundError = false ∧ Names (t.pay payment) r.ids transactionId) (returnItemId : String) :
    ((filterReturnItems t.ledger.order r.returnLineItems).2.get returnItemId).getD transactionId = "" ∨
      k.pspRefundError = false ∧ Names (t.pay payment) r.ids
        (((filterReturnItems t.ledger.order r.returnLineItems).2.get returnItemId).getD transactionId) := by
  cases listed : (filterReturnItems t.ledger.order r.returnLineItems).2.get returnItemId with
  | none => exact found
  | some earlier =>
    obtain ⟨entry,member,_,refunded⟩ := filtered_refunds (Dict.get_entry listed)
    obtain ⟨noError,names⟩ := sound.earlier entry member earlier refunded
    exact .inr ⟨noError,records.names names⟩

theorem update_linked (numbered : Numbered payment) (records : Records r k t.ledger.payment payment) (sound : Sound r k t)
    (found : transactionId = "" ∨ k.pspRefundError = false ∧ Names (t.pay payment) r.ids transactionId) :
    let actions := returnActions k r.ids (filterReturnItems t.ledger.order r.returnLineItems).2 transactionId
    ∀ action ∈ actions, Linked (t.pay payment) ⟨r.ids,actions⟩ action := by
  intro actions action member
  cases action with
  | setReturnPaymentState returnItemId paymentState => trivial
  | setReturnItemCustomType returnItemId value entitlement =>
    rcases List.mem_append.mp member with state | custom
    · obtain ⟨_,_,never⟩ := List.mem_map.mp state
      cases never
    · obtain ⟨_,_,same⟩ := List.mem_map.mp custom
      cases same
      have written := written_names records sound found returnItemId
      refine ⟨fun named => (written.resolve_left named).2,fun refused => ?_⟩
      have state := (return_actions.mp refused).2
      rcases written with empty | ⟨noError,_⟩
      · rw [empty]
        exact Numbered.none_empty (s := t.pay payment) numbered
      · simp [returnedState,noError] at state

theorem process_tracked (tracked : Tracked s) (fresh : Fresh s r)
    (sound : ∀ k t, arrive s r = some (k,t) → Sound r k t) (ran : process s r = some u) : Tracked u ∧ LinksKept s u := by
  obtain ⟨k,t,came,provided,noError,done⟩ := process_cases ran
  have sound := sound k t came
  have kept : LinksKept s t := by
    intro transaction member refund link linked
    exact ⟨transaction,provided.ledger ▸ member,rfl,refund,linked⟩
  have arrived := tracked.provided fresh provided
  rcases done with rfl | ⟨payment,records,done⟩
  · exact ⟨arrived,kept⟩
  · have recorded : Tracked (t.pay payment) ∧ LinksKept t (t.pay payment) := by
      rcases records with ⟨_,rfl⟩ | ⟨_,refund,psp,_,rfl⟩
      · exact ⟨arrived,.refl t⟩
      · exact ⟨arrived.added _,added_links_kept _⟩
    rcases done with rfl | ⟨order,same⟩
    · exact ⟨recorded.1,kept.trans recorded.2⟩
    · rw [← provided.ledger] at same
      have found := lookup_names recorded.1.numbered records sound noError
      have linked := update_linked recorded.1.numbered records sound found
      obtain ⟨relinked,links⟩ := recorded.1.link fun named => (found.resolve_left named).2
      rw [same]
      refine ⟨⟨relinked.numbered,relinked.single,relinked.links,?_⟩,(kept.trans recorded.2).trans links⟩
      intro update member action listed
      rcases List.mem_append.mp member with before | new
      · exact (relinked.faithful update before action listed).later (fun _ _ names => names) fun _ none_named => none_named
      · cases List.mem_singleton.mp new
        exact (linked action listed).later (fun _ _ => link_names) fun _ => link_names_none

def Allowed (s : State) : Event → Prop
  | .returned _ => True
  | .processed r => Fresh s r ∧ ∀ k t, arrive s r = some (k,t) → Sound r k t

abbrev Runs : State → List Event → State → Prop := RunsWhen step Allowed

theorem step_tracked {event : Event} (tracked : Tracked s) (ok : Allowed s event) (ran : step s event = some t) :
    Tracked t ∧ LinksKept s t := by
  cases event with
  | returned items =>
    cases ran
    refine ⟨⟨tracked.numbered,tracked.single,tracked.links,?_⟩,fun transaction member refund _ linked =>
      ⟨transaction,member,rfl,refund,linked⟩⟩
    intro update member action listed
    exact (tracked.faithful update member action listed).later (fun _ _ names => names) fun _ none_named => none_named
  | processed r => exact process_tracked tracked ok.1 ok.2 ran

theorem run_tracked {events : List Event} (tracked : Tracked s) (path : Runs s events t) : Tracked t ∧ LinksKept s t := by
  refine path.preserves (fun t => Tracked t ∧ LinksKept s t) ⟨tracked,.refl s⟩ ?_
  intro middle event next both ok ran
  obtain ⟨tracked,kept⟩ := step_tracked both.1 ok ran
  exact ⟨tracked,both.2.trans kept⟩

theorem links_faithful {events later : List Event} (numbered : Numbered s.ledger.payment) (issued : s.issued = [])
    (updates : s.updates = []) (path : Runs s events t) :
    Faithful t ∧ ∀ u, Runs t later u → LinksKept t u := by
  have start : Tracked s := by
    refine ⟨numbered,?_,?_,?_⟩
    · simp [issued]
    · simp [issued]
    · intro update member
      simp [updates] at member
  have tracked := (run_tracked start path).1
  exact ⟨tracked.faithful,fun u continued => (run_tracked tracked continued).2⟩

end Invariant

-- The usual case of the condition: line items not refunded before, and a refund
-- recorded for them or none on the payment at all.
section Usual
variable {r : Return} {s : State} {k : Kwargs} {event : Event}

def usual (r : Return) (k : Kwargs) (s : State) : Bool :=
  (r.returnLineItems.all fun entry => refundedWith s.ledger.order entry.1 = none) &&
    if recorded r k s.ledger.payment then (interactionId k).all fun refundId => ⟨refundId,r.ids⟩ ∈ s.issued
    else s.ledger.payment.transactions.all (·.type ≠ .refund)

theorem usual_sound (usually : usual r k s = true) : Sound r k s := by
  obtain ⟨unrefunded,answer⟩ := Bool.and_eq_true_iff.mp usually
  refine ⟨?_,?_,?_⟩
  · intro entry member transactionId refunded
    have absent := List.all_eq_true.mp unrefunded entry member
    rw [refunded] at absent
    cases absent
  · intro called refund response
    rw [if_pos called] at answer
    simpa [interactionId,response] using answer
  · intro unrecorded transaction member refund
    rw [if_neg (by simp [unrecorded])] at answer
    have absent := List.all_eq_true.mp answer transaction member
    simp [refund] at absent

instance : Decidable (Fresh s r) := inferInstanceAs (Decidable (∀ _ ∈ _, _))

def allowed (s : State) : Event → Bool
  | .returned _ => true
  | .processed r => Fresh s r ∧ (arrive s r).all fun (k,t) => usual r k t

theorem allowed_sound (ok : allowed s event = true) : Allowed s event := by
  cases event with
  | returned items => trivial
  | processed r =>
    obtain ⟨fresh,usually⟩ := of_decide_eq_true ok
    refine ⟨fresh,?_⟩
    intro k t came
    rw [came] at usually
    exact usual_sound usually

end Usual

section Examples

def payment : Payment :=
  ⟨"payment",1,some "pi_1",some "pi_1",⟨9800,"USD",some 2⟩,some edxStripePaymentInterfaceName,
    some paymentStatusInterfaceCodeSucceeded,[⟨"payment/0",0,.charge,⟨9800,"USD",some 2⟩,some "ch_1",.success,none⟩]⟩

def placed : State :=
  ⟨⟨⟨"order",1,"customer",false,[⟨"first",1,⟨4900,"USD",some 2⟩,[],none⟩,⟨"second",1,⟨4900,"USD",some 2⟩,[],none⟩],
    ⟨9800,"USD",some 2⟩,[],[payment]⟩,payment,⟨"pi_1",9800,"usd",[]⟩⟩,[],[]⟩

def returned (returnId lineItemId : String) : Event := .returned [⟨returnId,lineItemId,.initial,none,none⟩]
def refunded (returnId lineItemId refundId : String) : Event :=
  .processed ⟨[(lineItemId,returnId)],[],fun _ => false,.ok ⟨refundId,4900,"usd",1750000000,"succeeded",some "pi_1",none⟩,[],.ok none⟩
def refused (returnId lineItemId : String) : Event :=
  .processed ⟨[(lineItemId,returnId)],[],fun _ => false,.error .invalidRequest,[],.ok none⟩

theorem payment_numbered : Numbered payment := by
  refine ⟨by decide,by decide,?_⟩
  intro n later member
  have same := @number_injective payment n 0 (List.mem_singleton.mp member)
  rw [same] at later
  exact absurd later (by decide)

def firstReturn : List Event := [returned "r1" "first",refused "r1" "first",refunded "r1" "first" "re_1"]
def secondReturn : List Event := [returned "r2" "second",refunded "r2" "second" "re_2"]

theorem both_returns_linked : ∃ s t, Runs placed firstReturn s ∧ Runs s secondReturn t ∧ Faithful s ∧ LinksKept s t := by
  have ran : ((guardedRun step allowed placed firstReturn).bind fun s => guardedRun step allowed s secondReturn).isSome = true := by
    decide +kernel
  obtain ⟨t,ran⟩ := Option.isSome_iff_exists.mp ran
  obtain ⟨s,first,second⟩ := Option.bind_eq_some_iff.mp ran
  have path := RunsWhen.nil.guarded (fun _ _ => allowed_sound) first
  have continued := RunsWhen.nil.guarded (fun _ _ => allowed_sound) second
  obtain ⟨faithful,kept⟩ := links_faithful payment_numbered rfl rfl path
  exact ⟨s,t,path,continued,faithful,kept t continued⟩

-- The provider refuses the refund of the second return: it is linked to that of
-- the first, which in turn is linked to the second return.
theorem refused_return_linked : ∃ s t,
    RunsWhen step (fun _ _ => True) placed [returned "r1" "first",refunded "r1" "first" "re_1"] s ∧
    RunsWhen step (fun _ _ => True) s [returned "r2" "second",refused "r2" "second"] t ∧ ¬ Faithful t ∧ ¬ LinksKept s t := by
  have ran : (((guardedRun step (fun _ _ => true) placed [returned "r1" "first",refunded "r1" "first" "re_1"]).bind fun s =>
      (guardedRun step (fun _ _ => true) s [returned "r2" "second",refused "r2" "second"]).map fun t => (s,t)).any fun (s,t) =>
        ¬ Faithful t ∧ ¬ LinksKept s t) = true := by decide +kernel
  obtain ⟨⟨s,t⟩,ran,broken⟩ := (Option.any_eq_true _ _).mp ran
  obtain ⟨s,first,second⟩ := Option.bind_eq_some_iff.mp ran
  obtain ⟨t,second,same⟩ := Option.map_eq_some_iff.mp second
  cases same
  exact ⟨s,t,RunsWhen.nil.guarded (fun _ _ _ => trivial) first,RunsWhen.nil.guarded (fun _ _ _ => trivial) second,
    of_decide_eq_true broken⟩

end Examples

end RefundLinks
