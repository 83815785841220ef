import Bpe.Dispatch.OneShot

/-!
# Retry lineages are linear

Every row that is a retry continues exactly one committed parent, and no two
rows continue the same one. Along a run the table therefore stays a disjoint
union of chains: a claim with index zero opens a chain, and a retry extends
the chain that its parent ends.
-/

namespace Bpe.Dispatch

open Models Concurrent List

variable {D : Type}

/-- `r` is the retry that follows `p`. -/
structure Follows (p r : DispatchClaim D) : Prop where
  parent : r.retryOfAuthorizationId = some p.authorizationId
  index : r.retryIndex = p.retryIndex + 1
  binding : r.bindingSha256 = p.bindingSha256
  claimedAt : p.claimedAtUnix ≤ r.claimedAtUnix

/-- A lineage: it starts at index zero, and each row follows the one before. -/
inductive RetryChain : List (DispatchClaim D) → Prop where
  | root (r : DispatchClaim D) : r.retryIndex = 0 → RetryChain [r]
  | retry (chain : List (DispatchClaim D)) (p r : DispatchClaim D) :
      RetryChain (chain ++ [p]) → Follows p r → RetryChain (chain ++ [p] ++ [r])

/-! ## Chains -/

section Chains

variable {chain : List (DispatchClaim D)} {p r : DispatchClaim D}

section

variable (h : RetryChain chain)

include h

theorem RetryChain.ne_nil : chain ≠ [] := by
  cases h <;> simp

/-- A row of a chain is its last, or is followed by another row of it. -/
theorem RetryChain.last_or_followed (hp : p ∈ chain) :
    (∃ chain', chain = chain' ++ [p]) ∨
      ∃ q ∈ chain, q.retryOfAuthorizationId = some p.authorizationId := by
  induction h with
  | root r _ =>
    rw [mem_singleton.1 hp]
    exact .inl ⟨[], rfl⟩
  | retry chain p' r _ hf ih =>
    rcases mem_append.1 hp with hp | hp
    · right
      rcases ih hp with ⟨chain', hc'⟩ | ⟨q, hq, hparent⟩
      · obtain ⟨-, hpp⟩ := append_inj' hc' rfl
        cases hpp
        exact ⟨r, by simp, hf.parent⟩
      · exact ⟨q, mem_append_left _ hq, hparent⟩
    · rw [mem_singleton.1 hp]
      exact .inl ⟨_, rfl⟩

theorem RetryChain.isChain :
    chain.IsChain fun p r => r.retryOfAuthorizationId = some p.authorizationId := by
  induction h with
  | root r _ => exact .singleton r
  | retry chain p r _ hf ih =>
    refine isChain_append.2 ⟨ih, .singleton r, fun q hq r' hr' => ?_⟩
    obtain rfl : p = q := by simpa using hq
    obtain rfl : r = r' := by simpa using hr'
    exact hf.parent

theorem RetryChain.index :
    ∀ i (hi : i < chain.length), chain[i].retryIndex = i := by
  induction h with
  | root r hr =>
    intro i hi
    obtain rfl : i = 0 := by simpa using hi
    simpa using hr
  | retry chain p r _ hf ih =>
    intro i hi
    rw [getElem_append]
    split
    · next hlt => exact ih i hlt
    · next hge =>
      have hlen : (chain ++ [p]).length = chain.length + 1 := by simp
      have hlast := ih chain.length (by simp)
      simp only [getElem_concat_length] at hlast
      simp only [length_append, length_singleton] at hi hge hlen ⊢
      obtain rfl : i = chain.length + 1 := by omega
      simp only [Nat.sub_self, getElem_singleton]
      rw [hf.index, hlast]
      push_cast
      rfl

/-- Along a chain the binding stays and the claim times do not decrease. -/
theorem RetryChain.pairwise : chain.Pairwise fun p r =>
    r.bindingSha256 = p.bindingSha256 ∧ p.claimedAtUnix ≤ r.claimedAtUnix := by
  induction h with
  | root r _ => exact pairwise_singleton _ _
  | retry chain p r _ hf ih =>
    refine pairwise_append.2 ⟨ih, pairwise_singleton _ _, fun q hq r' hr' => ?_⟩
    rw [mem_singleton.1 hr']
    rcases mem_append.1 hq with hq | hq
    · obtain ⟨hb, hle⟩ := (pairwise_append.1 ih).2.2 q hq p (by simp)
      exact ⟨hf.binding.trans hb, le_trans hle hf.claimedAt⟩
    · rw [mem_singleton.1 hq]
      exact ⟨hf.binding, hf.claimedAt⟩

end

end Chains

variable [DecidableEq D] {K : Crypto D}

/-- What a row keeps of the claim it stands for: the verified authorization,
its receipt, and the parent that a retry continued. -/
structure Linked (K : Crypto D) (claims : List (DispatchClaim D)) (r : DispatchClaim D)
    (v : VerifiedDispatchAuthorization D) (receipt : DispatchAdmissionReceipt D) : Prop where
  backed : Backed K v receipt
  row : r = claimRow K receipt
  parent : v.authorization.payload.retryOfAuthorizationId = none ∨
    ∃ p ∈ claims, v.authorization.payload.retryOfAuthorizationId = some p.authorizationId ∧
      continues K v.authorization.payload p

structure LineageInv (K : Crypto D) (claims : List (DispatchClaim D)) : Prop where
  linked : ∀ r ∈ claims, ∃ v receipt, Linked K claims r v receipt
  chains : ∃ chains : List (List (DispatchClaim D)), chains.flatten.Perm claims ∧
    ∀ chain ∈ chains, RetryChain chain

/-! ## One claim -/

section Claim

variable {v : VerifiedDispatchAuthorization D} {claimId : Sha256Text D} {s s' : Ledger D}
  {receipt : DispatchAdmissionReceipt D}

theorem retryAllowed_iff {p : DispatchAuthorizationPayload D} {claims : List (DispatchClaim D)}
    (h : retryAllowed K p claims) : p.retryOfAuthorizationId = none ∨
      ∃ q ∈ claims, p.retryOfAuthorizationId = some q.authorizationId ∧ continues K p q := by
  unfold retryAllowed at h
  split at h
  · next hnone => exact .inl hnone
  · next id hid =>
    split at h
    · cases h
    · next q hq =>
      have hfound : q.authorizationId = id := by simpa using find?_some hq
      exact .inr ⟨q, mem_of_find?_eq_some hq, by rw [hid, hfound], of_decide_eq_true h⟩

theorem Claimed.linked (hc : Claimed K v claimId s receipt s') (hv : Verified K v) :
    Linked K s.claims (claimRow K receipt) v receipt :=
  ⟨⟨hv, hc.receiptOf, hc.inWindow⟩, rfl, retryAllowed_iff hc.retry⟩

theorem Linked.mono {claims claims' : List (DispatchClaim D)} {r : DispatchClaim D}
    (h : Linked K claims r v receipt) (hsub : claims ⊆ claims') :
    Linked K claims' r v receipt where
  backed := h.backed
  row := h.row
  parent := by
    rcases h.parent with hnone | ⟨p, hp, hid, hcont⟩
    · exact .inl hnone
    · exact .inr ⟨p, hsub hp, hid, hcont⟩

variable {claims : List (DispatchClaim D)} {r : DispatchClaim D}

section

variable (h : Linked K claims r v receipt)

include h

theorem Linked.payload_valid :
    v.authorization.payload.valid K :=
  SignedDispatchAuthorization.valid_payload h.backed.1.valid

theorem Linked.retryIndex :
    r.retryIndex = v.authorization.payload.retryIndex := by
  rw [h.row]; exact h.backed.2.1.retryIndex

theorem Linked.parentId :
    r.retryOfAuthorizationId = v.authorization.payload.retryOfAuthorizationId := by
  rw [h.row]; exact h.backed.2.1.parentId

theorem Linked.payloadSha256 :
    r.payloadSha256 = K.sha256Json (.payload v.authorization.payload) := by
  rw [h.row, ← h.backed.1.payloadSha256]; exact h.backed.2.1.payloadSha256

theorem Linked.bindingSha256 :
    r.bindingSha256 = dispatchBindingSha256 K v.authorization.payload := by
  rw [h.row, dispatchBindingSha256, ← h.backed.2.1.bindings]; rfl

theorem Linked.root (hnone : v.authorization.payload.retryOfAuthorizationId = none) :
    r.retryIndex = 0 := by
  obtain ⟨⟨hle, -⟩, -, hcloses⟩ := DispatchAuthorizationPayload.valid_lineage h.payload_valid
  rw [h.retryIndex]
  unfold retryLineageCloses at hcloses
  by_contra hne
  have hpos : v.authorization.payload.retryIndex > 0 := by omega
  exact hcloses (.inr ⟨hpos, .inl hnone⟩)

theorem Linked.follows {p : DispatchClaim D}
    (hid : v.authorization.payload.retryOfAuthorizationId = some p.authorizationId)
    (hcont : continues K v.authorization.payload p) : Follows p r := by
  obtain ⟨hindex, hbinding, hissued, -⟩ := hcont
  obtain ⟨-, hbefore, -⟩ := DispatchAuthorizationPayload.valid_lineage h.payload_valid
  refine ⟨by rw [h.parentId, hid], by rw [h.retryIndex]; omega,
    by rw [h.bindingSha256, hbinding], ?_⟩
  have hwindow : v.authorization.payload.notBeforeUnix ≤ receipt.claimedAtUnix := h.backed.2.2.1
  have hclaimed : r.claimedAtUnix = receipt.claimedAtUnix := by rw [h.row]; rfl
  omega

end

end Claim

/-! ## Every run -/

theorem LineageInv.claim {v : VerifiedDispatchAuthorization D} {claimId : Sha256Text D}
    {s s' : Ledger D} {receipt : DispatchAdmissionReceipt D} (h : LineageInv K s.claims)
    (hv : Verified K v) (hc : Claimed K v claimId s receipt s') : LineageInv K s'.claims := by
  have hnew := hc.linked hv
  obtain ⟨chains, hperm, hchains⟩ := h.chains
  rw [hc.after]
  refine ⟨fun r hr => ?_, ?_⟩
  · rcases mem_append.1 hr with hr | hr
    · obtain ⟨v', receipt', hl⟩ := h.linked r hr
      exact ⟨v', receipt', hl.mono (subset_append_left _ _)⟩
    · rw [mem_singleton.1 hr]
      exact ⟨v, receipt, hnew.mono (subset_append_left _ _)⟩
  · rcases hnew.parent with hnone | ⟨p, hp, hid, hcont⟩
    · refine ⟨chains ++ [[claimRow K receipt]], ?_, ?_⟩
      · simpa using hperm.append_right [claimRow K receipt]
      · intro chain hmem
        rcases mem_append.1 hmem with hmem | hmem
        · exact hchains chain hmem
        · rw [mem_singleton.1 hmem]
          exact .root _ (hnew.root hnone)
    · -- The parent ends its chain: a row after it would conflict with the new one.
      obtain ⟨chain, hcmem, hpc⟩ := mem_flatten.1 (hperm.mem_iff.2 hp)
      rcases (hchains chain hcmem).last_or_followed hpc with ⟨chain', rfl⟩ | ⟨q, hq, hparent⟩
      · obtain ⟨l₁, l₂, rfl⟩ := append_of_mem hcmem
        refine ⟨l₁ ++ (chain' ++ [p] ++ [claimRow K receipt]) :: l₂, ?_, ?_⟩
        · refine List.Perm.trans ?_ (hperm.append_right [claimRow K receipt])
          simp only [flatten_append, flatten_cons, append_assoc]
          have hswap : ([claimRow K receipt] ++ l₂.flatten).Perm
              (l₂.flatten ++ [claimRow K receipt]) := perm_append_comm
          exact ((hswap.append_left _).append_left _).append_left _
        · intro chain hmem
          rcases mem_append.1 hmem with hmem | hmem
          · exact hchains chain (mem_append_left _ hmem)
          · rcases mem_cons.1 hmem with rfl | hmem
            · exact .retry chain' p _ (hchains _ (by simp)) (hnew.follows hid hcont)
            · exact hchains chain (by simp [hmem])
      · exfalso
        have hqs : q ∈ s.claims := hperm.mem_iff.1 (mem_flatten.2 ⟨chain, hcmem, hq⟩)
        refine hc.fresh q hqs (.inr (.inr (.inr (.inr (.inr (.inr (.inl ?_)))))))
        have hparent' : (claimRow K receipt).retryOfAuthorizationId = some p.authorizationId := by
          rw [hnew.parentId, hid]
        exact ⟨by rw [hparent']; simp, by rw [hparent', hparent]⟩

theorem run_lineage {log : List (Step (Reply (D := D)) (Ledger D))}
    {g : Config (Request D) Reply _ (Ledger D)} (hr : Run (system K) .empty log g) :
    LineageInv K g.store.claims := by
  refine Run.invariant (P := fun q _ => ClaimsOwn K q) program_guards
    (fun _ s => LineageInv K s.claims) ?_ ?_ hr
  · exact ⟨by simp [Ledger.empty], [], .nil, by simp⟩
  · intro log i q c r s s' hinv hown hx
    rcases exec_advances hx with ⟨ha, _⟩ | ⟨v, claimId, receipt, he, hc⟩
    · rw [ha.1]; exact hinv
    · cases he
      exact hinv.claim hown.1 hc

/-- The parent `p` of a retry, as the signed payload `P` of the retry names it. -/
structure NamedParent (K : Crypto D) (P : DispatchAuthorizationPayload D) (r p : DispatchClaim D) :
    Prop where
  index : p.retryIndex = r.retryIndex - 1
  binding : p.bindingSha256 = r.bindingSha256
  receipt : P.retryOfClaimSha256 = some p.receiptSha256
  authorization : ∃ receipt, p.receiptSha256 = K.sha256Json (.receipt receipt) ∧
    ∀ receipt', P.retryOfClaimSha256 = some (K.sha256Json (.receipt receipt')) →
      receipt' = receipt ∧ receipt'.authorizationSha256 = p.authorizationSha256
  claimedAt : p.claimedAtUnix ≤ P.issuedAtUnix

theorem Linked.namedParent (hinj : Function.Injective K.sha256Json)
    {claims : List (DispatchClaim D)} {r p : DispatchClaim D}
    {v v' : VerifiedDispatchAuthorization D} {receipt receipt' : DispatchAdmissionReceipt D}
    (h : Linked K claims r v receipt) (hp : Linked K claims p v' receipt')
    (hcont : continues K v.authorization.payload p) :
    NamedParent K v.authorization.payload r p := by
  obtain ⟨hindex, hbinding, hissued, hreceipt⟩ := hcont
  have hdigest : p.receiptSha256 = K.sha256Json (.receipt receipt') := by rw [hp.row]; rfl
  refine ⟨by rw [h.retryIndex]; exact hindex, by rw [h.bindingSha256]; exact hbinding, hreceipt,
    ⟨receipt', hdigest, fun receipt'' heq => ?_⟩, not_lt.1 hissued⟩
  rw [hreceipt, hdigest, Option.some.injEq] at heq
  cases hinj heq
  exact ⟨rfl, by rw [hp.row]; rfl⟩

/-- **Retry lineages are linear** in every reachable ledger. -/
theorem retry_lineage_linear (hinj : Function.Injective K.sha256Json)
    {log : List (Step (Reply (D := D)) (Ledger D))}
    {g : Config (Request D) Reply (Except DispatchError (DispatchAdmissionReceipt D)) (Ledger D)}
    (hr : Run (system K) .empty log g) :
    (∀ r ∈ g.store.claims, 0 < r.retryIndex → ∃! P : DispatchAuthorizationPayload D,
      r.payloadSha256 = K.sha256Json (.payload P) ∧
      ∃ p ∈ g.store.claims, NamedParent K P r p ∧ ∀ p' ∈ g.store.claims,
        P.retryOfAuthorizationId = some p'.authorizationId ↔ p' = p) ∧
    (∀ r ∈ g.store.claims, ∀ r' ∈ g.store.claims, ∀ p ∈ g.store.claims,
      r.retryOfAuthorizationId = some p.authorizationId →
      r'.retryOfAuthorizationId = some p.authorizationId → r = r') ∧
    ∃ chains : List (List (DispatchClaim D)), chains.flatten.Perm g.store.claims ∧
      ∀ chain ∈ chains, chain ≠ [] ∧ (∀ i (hi : i < chain.length), chain[i].retryIndex = i) ∧
        chain.IsChain (fun p r => r.retryOfAuthorizationId = some p.authorizationId) ∧
        chain.Pairwise (fun p r => r.bindingSha256 = p.bindingSha256 ∧
          p.claimedAtUnix ≤ r.claimedAtUnix) ∧
        chain.length ≤ 16 + 1 := by
  have hinv := run_inv hr
  have hlin := run_lineage hr
  refine ⟨fun r hrow hpos => ?_, fun r hrow r' hrow' p _ hp hp' => ?_, ?_⟩
  · obtain ⟨v, receipt, hl⟩ := hlin.linked r hrow
    refine ⟨v.authorization.payload, ⟨hl.payloadSha256, ?_⟩, fun P hP => ?_⟩
    · rcases hl.parent with hnone | ⟨p, hp, hid, hcont⟩
      · rw [hl.root hnone] at hpos
        exact absurd hpos (lt_irrefl _)
      · obtain ⟨v', receipt', hlp⟩ := hlin.linked p hp
        refine ⟨p, hp, hl.namedParent hinj hlp hcont, fun p' hp' => ⟨fun heq => ?_, fun heq => ?_⟩⟩
        · rw [hid, Option.some.injEq] at heq
          exact (hinv.distinct.eq DispatchClaim.conflicts_symm hp hp' (.inl heq)).symm
        · rw [heq]; exact hid
    · rw [hl.payloadSha256] at hP
      cases hinj hP.1
      rfl
  · refine hinv.distinct.eq DispatchClaim.conflicts_symm hrow hrow' ?_
    exact .inr (.inr (.inr (.inr (.inr (.inr (.inl ⟨by rw [hp]; simp, by rw [hp, hp']⟩))))))
  · obtain ⟨chains, hperm, hchains⟩ := hlin.chains
    refine ⟨chains, hperm, fun chain hc => ?_⟩
    have hchain := hchains chain hc
    refine ⟨hchain.ne_nil, hchain.index, hchain.isChain, hchain.pairwise, ?_⟩
    obtain ⟨n, hn⟩ := Nat.exists_eq_succ_of_ne_zero (length_pos_iff.2 hchain.ne_nil).ne'
    have hlast := hchain.index n (by omega)
    have hmem : chain[n] ∈ g.store.claims := hperm.mem_iff.1
      (mem_flatten.2 ⟨chain, hc, getElem_mem (by omega)⟩)
    obtain ⟨v, receipt, hl⟩ := hlin.linked _ hmem
    obtain ⟨⟨-, hle⟩, -, -⟩ := DispatchAuthorizationPayload.valid_lineage hl.payload_valid
    rw [← hl.retryIndex, hlast] at hle
    omega

/-- The retry of the sample run continues the first attempt. -/
theorem sample_lineage : ∃ r ∈ sampleRun.2.store.claims, 0 < r.retryIndex ∧
    ∃! P : DispatchAuthorizationPayload Term,
      r.payloadSha256 = symbolic.sha256Json (.payload P) ∧
      ∃ p ∈ sampleRun.2.store.claims, NamedParent symbolic P r p ∧
        ∀ p' ∈ sampleRun.2.store.claims,
          P.retryOfAuthorizationId = some p'.authorizationId ↔ p' = p := by
  have hretry : ∃ r ∈ sampleRun.2.store.claims, 0 < r.retryIndex := by decide +kernel
  obtain ⟨r, hr, hpos⟩ := hretry
  exact ⟨r, hr, hpos, (retry_lineage_linear Document.term_inj run_sample).1 r hr hpos⟩

end Bpe.Dispatch
