import SessionChat.Storage.History

/-!
# Single use along a run (`crates/storage-sqlcipher/src/authorization.rs`)

The calls of the authorization path, under generations that never repeat. The
`Chronicle` relates the tables to the history of the run: every opening and every
result belongs to an issued invitation, and every accepted request is recorded.
-/

set_option autoImplicit false

namespace SessionChat.Storage

open Relational Transition

variable {policy : AuthorizationPolicy} {storeId : { id : Id16 // id ≠ 0 }} {w w' : StoreWorld}

/-! ## Reading the history -/

def issuedInvitation (e : Event Call Reply) : Option GeneratedCapabilityInvitationV2 :=
  match e.call, e.reply with
  | .perform _ (.issue ..), .issued (.ok generated) => some generated
  | _, _ => none

def acceptedRequest (e : Event Call Reply) : Option AuthorizationShadowInput :=
  match e.call, e.reply with
  | .perform _ (.reserve _ input _ _), .pending (.ok _) => some input
  | _, _ => none

def issued (w : StoreWorld) : List GeneratedCapabilityInvitationV2 :=
  w.history.filterMap issuedInvitation

def accepted (w : StoreWorld) : List AuthorizationShadowInput :=
  w.history.filterMap acceptedRequest

def IssuedAs (w : StoreWorld) (id : Id16) (generation : Generation) : Prop :=
  ∃ g ∈ issued w, g.invitation.invitationId = id ∧ g.invitation.signature = generation

/-- A call of the authorization path; a drawn generation was not issued before. -/
structure AuthorizationCall (w : StoreWorld) (c : Call) : Prop where
  path : ∀ i op, c = .perform i op → op.isLegacy = false
  fresh : ∀ i protector issuedAt expiresAt now generated,
    c = .perform i (.issue protector issuedAt expiresAt now) →
    protector.generateCapabilityInvitation issuedAt expiresAt = some generated →
    ∀ g ∈ issued w, g.invitation.signature ≠ generated.invitation.signature

variable {c : Call} {g : GeneratedCapabilityInvitationV2} {input : AuthorizationShadowInput}
  {s : Scope} {db : Db} {protector : InvitationJoinProtector} {now : Nat} {draws : Fin 4 → Id16}
  {st : Store}

theorem mem_issued_after : g ∈ issued (w.after (Store.step policy) c) ↔
      g ∈ issued w ∨ issuedInvitation ⟨c, (w.state.step policy c).2⟩ = some g := by
  simp [issued, World.after, List.filterMap_cons]
  grind

theorem mem_accepted_after : input ∈ accepted (w.after (Store.step policy) c) ↔
      input ∈ accepted w ∨ acceptedRequest ⟨c, (w.state.step policy c).2⟩ = some input := by
  simp [accepted, World.after, List.filterMap_cons]
  grind

/-! ## What the replies tell about the call -/

/-- An issued invitation is the one the protector drew. -/
theorem issueCapabilityInvitation_ok {self : SqlCipherStorage} {issuedAt expiresAt : Nat}
    (h : (self.issueCapabilityInvitation protector issuedAt expiresAt now s db).reply = .ok g) :
    protector.generateCapabilityInvitation issuedAt expiresAt = some g := by
  unfold SqlCipherStorage.issueCapabilityInvitation at h
  split at h
  · cases h
  · split at h
    · cases h
    · next generated hgenerated =>
        obtain ⟨_, -, hdone⟩ := perform_ok h
        cases hdone
        exact hgenerated

/-- An accepted request was checked against the compacted tables. -/
theorem reserveAuthorization_ok (self : SqlCipherStorage)
    (h : Coherent self.authorizationPolicy db.tables) {pending : PendingAuthorization}
    (hreply : (self.reserveAuthorization protector input now draws s db).reply = .ok pending) :
    ∃ db₁ o, Effect self.authorizationPolicy .nothing db db₁ ∧
      Accepted self.authorizationPolicy input pending.handle.attemptId now db₁
        (self.reserveAuthorization protector input now draws s db).db o := by
  unfold SqlCipherStorage.reserveAuthorization at hreply ⊢
  split at hreply
  · cases hreply
  · next hguard =>
      split at hreply
      · cases hreply
      · next hroom =>
          rw [if_neg hguard, if_neg hroom]
          obtain ⟨⟨attemptId, store⟩, hrun, hdone⟩ := perform_ok hreply
          cases hdone
          obtain ⟨db₁, hfirst, ⟨hbad, -⟩ | ⟨id, st, o, hok, haccepted⟩⟩ :=
            reserveAuthorizationTx_ok h hrun
          · cases hbad
          · cases hok
            exact ⟨db₁, o, hfirst, haccepted⟩

theorem issuedInvitation_step (h : issuedInvitation ⟨c, (st.step policy c).2⟩ = some g) :
    ∃ i protector issuedAt expiresAt now, c = .perform i (.issue protector issuedAt expiresAt now) ∧
      protector.generateCapabilityInvitation issuedAt expiresAt = some g := by
  unfold issuedInvitation at h
  split at h
  · next i protector issuedAt expiresAt now _ hcall hreply =>
      cases h
      obtain rfl : c = .perform i (.issue protector issuedAt expiresAt now) := hcall
      refine ⟨i, protector, issuedAt, expiresAt, now, rfl, ?_⟩
      obtain hnone | ⟨s, -, hstep⟩ := st.step_perform policy i
        (.issue protector issuedAt expiresAt now)
      · simp [hnone] at hreply
      · simp only [hstep] at hreply
        exact issueCapabilityInvitation_ok (Reply.issued.inj hreply)
  · cases h

theorem acceptedRequest_step (hst : st.Sound policy)
    (h : acceptedRequest ⟨c, (st.step policy c).2⟩ = some input) :
    ∃ attemptId now db₁ o, Effect policy .nothing st.db db₁ ∧
      Accepted policy input attemptId now db₁ (st.step policy c).1.db o := by
  unfold acceptedRequest at h
  split at h
  · next i protector _ now draws pending hcall hreply =>
      cases h
      obtain rfl : c = .perform i (.reserve protector input now draws) := hcall
      obtain hnone | ⟨s, -, hstep⟩ := st.step_perform policy i
        (.reserve protector input now draws)
      · simp [hnone] at hreply
      · simp only [hstep] at hreply ⊢
        obtain ⟨db₁, o, hfirst, haccepted⟩ := reserveAuthorization_ok
          (st.handle policy i) hst.coherent (Reply.pending.inj hreply)
        exact ⟨_, now, db₁, o, hfirst, haccepted⟩
  · cases h

/-! ## The chronicle -/

/-- How the tables relate to the history. -/
structure Chronicle (policy : AuthorizationPolicy) (w : StoreWorld) : Prop where
  sound : w.state.Sound policy
  staged : ∀ i s staged, w.state.scopes i = some s → s.stagedInviter = some staged →
    staged.authorization ≠ none
  /-- A generation was issued under one identifier only. -/
  issued_unique : ∀ g ∈ issued w, ∀ g' ∈ issued w,
    g.invitation.signature = g'.invitation.signature →
      g.invitation.invitationId = g'.invitation.invitationId
  belongs : (∀ o ∈ w.state.db.tables.openings, IssuedAs w o.invitationId o.generation) ∧
    ∀ j ∈ w.state.db.tables.inviterJoins, IssuedAs w j.invitationId j.generation
  accepted_issued : ∀ input ∈ accepted w, ∃ g ∈ issued w,
    g.invitation.signature = input.invitationGeneration
  accepted_recorded : ∀ input ∈ accepted w, Recorded (input.attemptRow 0) w.state.db

namespace Chronicle

theorem created (policy : AuthorizationPolicy) (storeId : { id : Id16 // id ≠ 0 }) :
    Chronicle policy (StoreWorld.created policy storeId) where
  sound := .created policy storeId
  staged := by
    intro i s staged hs hstaged
    by_cases hi : i = 0
    · subst hi
      simp only [StoreWorld.created, Store.created, Function.update_self, Option.some.injEq] at hs
      subst hs
      cases hstaged
    · simp [StoreWorld.created, Store.created, hi] at hs
  issued_unique := by simp [issued, StoreWorld.created]
  belongs := by simp [StoreWorld.created, Store.created, createSchema, createdTables]
  accepted_issued := by simp [accepted, StoreWorld.created]
  accepted_recorded := by simp [accepted, StoreWorld.created]

section Step

variable (h : Chronicle policy w) {c : Call} (hc : AuthorizationCall w c)
include h hc

/-- A generation that was never issued has no result. -/
theorem fresh : c.Fresh w.state.db := by
  unfold Call.Fresh
  split
  · next i op =>
      unfold Operation.Fresh
      split
      · next protector issuedAt expiresAt now =>
          intro generated hgenerated j hj hsame
          obtain ⟨g, hg, -, hgen⟩ := h.belongs.2 j hj
          exact hc.fresh i protector issuedAt expiresAt now generated rfl hgenerated g hg
            (hgen.trans hsame.2)
      · trivial
  all_goals trivial

theorem effects : Effects policy (c.admission w.state (w.state.step policy c).2) w.state.db
    (w.after (Store.step policy) c).state.db :=
  Store.step_effects h.sound (h.fresh hc)

omit hc in
theorem no_legacy (j : InviterJoinRow) :
    ¬(c.admission w.state (w.state.step policy c).2).legacyJoin j := by
  intro hallowed
  obtain ⟨i, s, staged, _, _, _, _, _, -, hs, hstaged, hauth, -⟩ :=
    Call.admission_legacyJoin hallowed
  exact h.staged i s staged hs hstaged hauth

omit h in
/-- An invitation that this call issues has a new generation. -/
theorem new_issued {generated : GeneratedCapabilityInvitationV2}
    (hissued : issuedInvitation ⟨c, (w.state.step policy c).2⟩ = some generated) :
    ∀ g ∈ issued w, g.invitation.signature ≠ generated.invitation.signature := by
  obtain ⟨i, protector, issuedAt, expiresAt, now, hcall, hgenerated⟩ :=
    issuedInvitation_step hissued
  exact hc.fresh i protector issuedAt expiresAt now generated hcall hgenerated

omit h in
/-- A new opening belongs to an invitation that this call issues. -/
theorem new_opening {o : OpeningRow}
    (hallowed : (c.admission w.state (w.state.step policy c).2).opening o) :
    IssuedAs (w.after (Store.step policy) c) o.invitationId o.generation ∧
      ∀ g ∈ issued w, o.generation ≠ g.invitation.signature := by
  obtain ⟨i, protector, issuedAt, expiresAt, now, generated, rfl, hreply, hid, hgen⟩ :=
    Call.admission_opening hallowed
  have hissued : issuedInvitation ⟨.perform i (.issue protector issuedAt expiresAt now),
      (w.state.step policy (.perform i (.issue protector issuedAt expiresAt now))).2⟩ =
      some generated := by
    simp [issuedInvitation, hreply]
  refine ⟨⟨generated, mem_issued_after.mpr (.inr hissued), hid.symm, hgen.symm⟩, ?_⟩
  intro g hg hsame
  exact new_issued hc hissued g hg (hsame.symm.trans hgen)

theorem staged_after : ∀ i s staged, (w.state.step policy c).1.scopes i = some s →
    s.stagedInviter = some staged → staged.authorization ≠ none := by
  intro i s staged hs hstaged
  cases c with
  | openScope =>
    obtain rfl | hs := Store.openScope_scopes hs
    · cases hstaged
    · exact h.staged i s staged hs hstaged
  | closeScope k =>
    by_cases hik : i = k
    · simp [Store.step, Store.closeScope, hik] at hs
    · simp only [Store.step, Store.closeScope, ne_eq, hik, not_false_eq_true,
        Function.update_of_ne] at hs
      exact h.staged i s staged hs hstaged
  | restart =>
    obtain rfl | hs := Store.openScope_scopes hs
    · cases hstaged
    · cases hs
  | perform k op =>
    obtain hnone | ⟨s₀, hs₀, hstep⟩ := w.state.step_perform policy k op
    · rw [hnone] at hs
      exact h.staged i s staged hs hstaged
    · rw [hstep] at hs
      by_cases hik : i = k
      · subst hik
        simp only [Store.settle, Function.update_self, Option.some.injEq] at hs
        subst hs
        obtain hold | hnew := Operation.run_staged (hc.path i op rfl) hstaged
        · exact h.staged i s₀ staged hs₀ hold
        · exact hnew
      · simp only [Store.settle, ne_eq, hik, not_false_eq_true, Function.update_of_ne] at hs
        exact h.staged i s staged hs hstaged

theorem recorded_after {input : AuthorizationShadowInput} (hinput : input ∈ accepted w) :
    Recorded (input.attemptRow 0) (w.after (Store.step policy) c).state.db := by
  refine keeps_recorded h.sound.coherent (h.effects hc) ?_ (h.accepted_recorded input hinput)
  intro o hallowed
  obtain ⟨g, hg, hgen⟩ := h.accepted_issued input hinput
  have := (new_opening hc hallowed).2 g hg
  rwa [hgen] at this

theorem after : Chronicle policy (w.after (Store.step policy) c) where
  sound := h.sound.step (h.fresh hc)
  staged := h.staged_after hc
  issued_unique := by
    intro g hg g' hg' hsame
    rw [mem_issued_after] at hg hg'
    obtain hg | hg := hg <;> obtain hg' | hg' := hg'
    · exact h.issued_unique g hg g' hg' hsame
    · exact absurd hsame (new_issued hc hg' g hg)
    · exact absurd hsame.symm (new_issued hc hg g' hg')
    · rw [hg, Option.some.injEq] at hg'
      rw [hg']
  belongs := by
    refine keeps_issued h.sound.coherent (h.effects hc) (fun o ho => (new_opening hc ho).1)
      h.no_legacy ?_
    have hgrow : ∀ id gen, IssuedAs w id gen → IssuedAs (w.after (Store.step policy) c) id gen := by
      rintro id gen ⟨g, hg, hsame⟩
      exact ⟨g, mem_issued_after.mpr (.inl hg), hsame⟩
    exact ⟨fun o ho => hgrow _ _ (h.belongs.1 o ho), fun j hj => hgrow _ _ (h.belongs.2 j hj)⟩
  accepted_issued := by
    intro input hinput
    obtain hinput | hinput := mem_accepted_after.mp hinput
    · obtain ⟨g, hg, hgen⟩ := h.accepted_issued input hinput
      exact ⟨g, mem_issued_after.mpr (.inl hg), hgen⟩
    · -- the opening the request reserved was issued before
      obtain ⟨attemptId, now, db₁, o, hfirst, haccepted⟩ :=
        acceptedRequest_step h.sound hinput
      have hbelongs := keeps_issued (I := IssuedAs w) h.sound.coherent (.single hfirst)
        (fun _ => False.elim) (fun _ => id) h.belongs
      obtain ⟨g, hg, -, hgen⟩ := hbelongs.1 o haccepted.mem
      exact ⟨g, mem_issued_after.mpr (.inl hg), hgen.trans haccepted.owns.2⟩
  accepted_recorded := by
    intro input hinput
    obtain hinput | hinput := mem_accepted_after.mp hinput
    · exact h.recorded_after hc hinput
    · obtain ⟨attemptId, now, db₁, o, -, haccepted⟩ := acceptedRequest_step h.sound hinput
      refine .inl ⟨input.attemptRow attemptId, ?_, rfl, rfl, rfl, rfl⟩
      simp only [World.after, haccepted.tables]
      exact List.mem_append_right _ (List.mem_singleton.mpr rfl)

end Step

section

variable (h : Chronicle policy w) (hrun : Leads (Store.step policy) AuthorizationCall w w')
include h hrun

theorem leads : Chronicle policy w' :=
  hrun.invariant (fun _ _ hc hw => hw.after hc) h

/-- What effects keep as long as they bring in no opening of a generation holds on along
a run, once that generation was issued. -/
theorem leads_keeps {P : Db → Prop} {generation : Generation}
    (hissued : ∃ g ∈ issued w, g.invitation.signature = generation)
    (hkeep : ∀ {N db db'}, Coherent policy db.tables → Effects policy N db db' →
      (∀ o, N.opening o → o.generation ≠ generation) → P db → P db')
    (hP : P w.state.db) : P w'.state.db := by
  have hall : Chronicle policy w' ∧ (∃ g ∈ issued w', g.invitation.signature = generation) ∧
      P w'.state.db := by
    refine hrun.invariant (I := fun v => Chronicle policy v ∧
      (∃ g ∈ issued v, g.invitation.signature = generation) ∧ P v.state.db) ?_ ⟨h, hissued, hP⟩
    rintro v c hc ⟨hv, ⟨g, hg, hgen⟩, hPv⟩
    refine ⟨hv.after hc, ⟨g, mem_issued_after.mpr (.inl hg), hgen⟩,
      hkeep hv.sound.coherent (hv.effects hc) ?_ hPv⟩
    intro o hallowed
    have := (new_opening hc hallowed).2 g hg
    rwa [hgen] at this
  exact hall.2.2

end

theorem join_unique (h : Chronicle policy w) {j k : InviterJoinRow}
    (hj : j ∈ w.state.db.tables.inviterJoins) (hk : k ∈ w.state.db.tables.inviterJoins)
    (hgen : j.generation = k.generation) : j = k := by
  obtain ⟨g, hg, hid, hsig⟩ := h.belongs.2 j hj
  obtain ⟨g', hg', hid', hsig'⟩ := h.belongs.2 k hk
  have hsame := h.issued_unique g hg g' hg' (hsig.trans (hgen.trans hsig'.symm))
  exact w.state.db.isValid.join_eq_of_invitation hj hk
    (hid.symm.trans (hsame.trans hid'))

variable {a b : AttemptRow}

section

variable (h : Chronicle policy w) (hrun : Leads (Store.step policy) AuthorizationCall w w')
include h hrun

/-- A committed attempt is the only one of its generation that is ever committed. -/
theorem committed_once (ha : a ∈ w.state.db.tables.attempts) (hca : a.state = .committed)
    (hb : b ∈ w'.state.db.tables.attempts) (hcb : b.state = .committed)
    (hgen : a.generation = b.generation) : a = b := by
  obtain ⟨owner, hopening, howner, -⟩ := h.sound.coherent.attempt_opening a ha
  obtain ⟨g, hg, -, hissued⟩ := h.belongs.1 owner hopening
  have hkept : a ∈ w'.state.db.tables.attempts ∨ Gone a.generation w'.state.db :=
    h.leads_keeps hrun ⟨g, hg, hissued.trans howner.2⟩
      (fun hdb he hnew => keeps_ended hdb he hnew (by rw [hca]; rfl)) (.inl ha)
  have h' := h.leads hrun
  obtain hmem | hgone := hkept
  · obtain ⟨j, hj, htxj, -, hgenj, -⟩ := h'.sound.coherent.committed_join a hmem hca
    obtain ⟨k, hk, htxk, -, hgenk, -⟩ := h'.sound.coherent.committed_join b hb hcb
    obtain rfl := h'.join_unique hj hk (hgenj.trans (hgen.trans hgenk.symm))
    exact w'.state.db.isValid.attempt_eq_of_transaction hmem hb htxj htxk
  · obtain ⟨o, ho, howns, -⟩ := h'.sound.coherent.attempt_opening b hb
    exact absurd (howns.2.trans hgen.symm) (hgone o ho)

theorem closed_forever {o : OpeningRow} (ho : o ∈ w.state.db.tables.openings) (hclosed : o.Closed) :
    ∀ o' ∈ w'.state.db.tables.openings, o'.generation = o.generation → o'.Closed := by
  obtain ⟨g, hg, -, hgen⟩ := h.belongs.1 o ho
  refine h.leads_keeps (P := fun db => ∀ o' ∈ db.tables.openings,
    o'.generation = o.generation → o'.Closed) hrun ⟨g, hg, hgen⟩
    (fun hdb he hnew => keeps_closed hdb he hnew) ?_
  intro o' ho' hsame
  rwa [w.state.db.isValid.opening_eq_of_generation ho' ho hsame]

end

/-- A request that shares an identifier, nonce or fingerprint with an accepted one is
not accepted for the same generation. -/
theorem not_accepted_again (h : Chronicle policy w) {c : Call}
    {input input' : AuthorizationShadowInput} (hearlier : input' ∈ accepted w)
    (haccept : acceptedRequest ⟨c, (w.state.step policy c).2⟩ = some input)
    (hgen : input'.invitationGeneration = input.invitationGeneration) :
    input'.joinRequestId ≠ input.joinRequestId ∧ input'.requestNonce ≠ input.requestNonce ∧
      input'.requestFingerprint ≠ input.requestFingerprint := by
  obtain ⟨attemptId, now, db₁, o, hfirst, haccepted⟩ := acceptedRequest_step h.sound haccept
  have hcoherent := h.sound.coherent.effect hfirst
  have hrecorded : Recorded (input'.attemptRow 0) db₁ :=
    keeps_recorded h.sound.coherent (.single hfirst) (fun _ => False.elim)
      (h.accepted_recorded input' hearlier)
  obtain ⟨b, hb, hbgen, hbreq, hbnonce, hbfinger⟩ | hgone := hrecorded
  · -- the retained row expires with the opening the new request reserves
    have hbinput : b.generation = input.invitationGeneration := hbgen.trans hgen
    obtain ⟨o', ho', howns, hexpires⟩ := hcoherent.attempt_opening b hb
    obtain rfl := (Db.isValid db₁).opening_eq_of_generation ho' haccepted.mem
      (howns.2.trans (hbinput.trans haccepted.owns.2.symm))
    have hlater : now < b.invitationExpiresAt := hexpires ▸ haccepted.unexpired
    have hclash : ∀ hshared : b.joinRequestId = input.joinRequestId ∨
        b.requestNonce = input.requestNonce ∨ b.requestFingerprint = input.requestFingerprint,
        False := fun hshared => haccepted.not_replayed ⟨b, hb, hbinput, hlater, hshared⟩
    exact ⟨fun hsame => hclash (.inl (hbreq.trans hsame)),
      fun hsame => hclash (.inr (.inl (hbnonce.trans hsame))),
      fun hsame => hclash (.inr (.inr (hbfinger.trans hsame)))⟩
  · exact absurd (haccepted.owns.2.trans hgen.symm) (hgone o haccepted.mem)

end Chronicle

/-- The worlds that the authorization path reaches from a new store. -/
def AuthorizationRun (policy : AuthorizationPolicy) (storeId : { id : Id16 // id ≠ 0 })
    (w : StoreWorld) : Prop :=
  Leads (Store.step policy) AuthorizationCall (StoreWorld.created policy storeId) w

/-- Along every run of the authorization path, from any world to any later one: a
generation has at most one result, and the result found earlier is the one found later;
at most one of its attempts is ever committed; once consumed or unusable it is never
available or reserved again; and no later request that shares an identifier, a nonce or a
fingerprint with an accepted one is accepted for it. -/
theorem generation_used_once (h : AuthorizationRun policy storeId w)
    (hrun : Leads (Store.step policy) AuthorizationCall w w') :
    (∀ j ∈ w'.state.db.tables.inviterJoins, ∀ k ∈ w'.state.db.tables.inviterJoins,
        j.generation = k.generation → j = k) ∧
      (∀ j ∈ w.state.db.tables.inviterJoins, ∀ k ∈ w'.state.db.tables.inviterJoins,
        j.generation = k.generation → k.transactionId = j.transactionId) ∧
      (∀ a ∈ w.state.db.tables.attempts, ∀ b ∈ w'.state.db.tables.attempts,
        a.state = .committed → b.state = .committed → a.generation = b.generation → a = b) ∧
      (∀ o ∈ w.state.db.tables.openings, o.state = .consumed ∨ o.state = .unusable →
        ∀ o' ∈ w'.state.db.tables.openings, o'.generation = o.generation →
          o'.state ≠ .available ∧ o'.state ≠ .reserved) ∧
      ∀ c input, acceptedRequest ⟨c, (w'.state.step policy c).2⟩ = some input →
        ∀ input' ∈ accepted w', input'.invitationGeneration = input.invitationGeneration →
          input'.joinRequestId ≠ input.joinRequestId ∧ input'.requestNonce ≠ input.requestNonce ∧
            input'.requestFingerprint ≠ input.requestFingerprint := by
  have hw : Chronicle policy w := (Chronicle.created policy storeId).leads h
  have hw' : Chronicle policy w' := hw.leads hrun
  refine ⟨fun j hj k hk => hw'.join_unique hj hk, ?_, ?_, ?_, ?_⟩
  · intro j hj k hk hgen
    obtain ⟨g, hg, -, hsig⟩ := hw.belongs.2 j hj
    obtain ⟨j', hj', htx, -, hgen', -⟩ := hw.leads_keeps hrun ⟨g, hg, hsig⟩
      (fun hdb he _ => keeps_join hdb he) ⟨j, hj, .refl j⟩
    rw [← hw'.join_unique hj' hk (hgen'.trans hgen), htx]
  · intro a ha b hb hca hcb hgen
    exact hw.committed_once hrun ha hca hb hcb hgen
  · intro o ho hclosed o' ho' hgen
    have := hw.closed_forever hrun ho hclosed o' ho' hgen
    simp only [OpeningRow.Closed] at this
    grind
  · intro c input haccept input' hearlier hgen
    exact hw'.not_accepted_again hearlier haccept hgen

/-! ## A rejected request and its successor -/

theorem secondRequest_ne_zero : (6 : Id16) ≠ 0 := by decide

theorem secondFingerprint_ne_zero : (6 : Bytes32) ≠ 0 := by decide +kernel

theorem firstInvitation_ne_zero : (1 : Id16) ≠ 0 := by decide

theorem firstGeneration_ne_zero : (1 : Generation) ≠ 0 := by decide +kernel

/-- A second request for the invitation of the sample runs. -/
def secondRequest : AuthorizationShadowInput :=
  sampleRequest ⟨1, firstInvitation_ne_zero⟩ ⟨1, firstGeneration_ne_zero⟩
    ⟨6, secondRequest_ne_zero⟩ ⟨6, secondFingerprint_ne_zero⟩

def issueFirst : Call := .perform 0 (.issue (.only firstInvitation) 1 10 2)

def reserveFirst : Call :=
  .perform 0 (.reserve (.only firstInvitation) firstRequest 3 fun _ => 9)

def rejectFirst : Call := .perform 0 (.reject ⟨firstHandle⟩ (.only firstInvitation) 4)

def reserveSecond : Call :=
  .perform 0 (.reserve (.only firstInvitation) secondRequest 5 fun _ => 8)

/-- The sample store after its first request was rejected. -/
def rejectedWorld : StoreWorld :=
  sampleStore.afterAll (Store.step .phaseOne) [issueFirst, reserveFirst, rejectFirst]

theorem rejectedWorld_run : AuthorizationRun .phaseOne ⟨7, by decide⟩ rejectedWorld := by
  refine leads_afterAll ⟨⟨?_, ?_⟩, ⟨?_, ?_⟩, ⟨?_, ?_⟩, trivial⟩
  · rintro i op ⟨⟩
    rfl
  · intro _ _ _ _ _ _ _ _ g hg
    cases hg
  · rintro i op ⟨⟩
    rfl
  · rintro _ _ _ _ _ _ ⟨⟩
  · rintro i op ⟨⟩
    rfl
  · rintro _ _ _ _ _ _ ⟨⟩

/-- An accepted reservation accepted its own request. -/
theorem acceptedRequest_reserve {i : ScopeId} {reply : Reply}
    (h : (acceptedRequest ⟨.perform i (.reserve protector input now draws), reply⟩).isSome) :
    acceptedRequest ⟨.perform i (.reserve protector input now draws), reply⟩ = some input := by
  unfold acceptedRequest at h ⊢
  split at h
  · next hcall _ =>
      cases hcall
      rfl
  · cases h

theorem generation_used_once_rejected :
    acceptedRequest ⟨reserveSecond, (rejectedWorld.state.step .phaseOne reserveSecond).2⟩ =
        some secondRequest ∧ firstRequest.joinRequestId ≠ secondRequest.joinRequestId := by
  have hfirst : firstRequest ∈ accepted rejectedWorld :=
    mem_accepted_after.mpr (.inl (mem_accepted_after.mpr (.inr
      (acceptedRequest_reserve (by decide +kernel)))))
  have hsecond : acceptedRequest
      ⟨reserveSecond, (rejectedWorld.state.step .phaseOne reserveSecond).2⟩ =
      some secondRequest := acceptedRequest_reserve (by decide +kernel)
  have honce := generation_used_once rejectedWorld_run (.refl rejectedWorld)
  exact ⟨hsecond,
    (honce.2.2.2.2 reserveSecond secondRequest hsecond firstRequest hfirst rfl).1⟩

end SessionChat.Storage
