import SwiyuIssuer.Oidc.Store

/-! What can become of the committed database, statement by statement, and what follows for its
offers, access tokens and credentials. -/

namespace SwiyuIssuer.Oidc

open Library Persistence

namespace Database

def cancelPending (db : Database) (request : MarkRequest) : CredentialOfferId →
    Option CredentialOffer := fun id =>
  if CredentialOffers.isPending request.tenantId request.issuerId (db.offers id) then
    (db.offers id).map fun row => row.asCancelled request.now
  else db.offers id

inductive Effect (db : Database) : Database → Prop
  | unchanged : Effect db db
  | nonces (rows : Nonces.Rows) : Effect db { db with nonces := rows }
  | token (token : AccessToken) (absent : db.accessTokens token.offerId = none) :
      Effect db { db with
        accessTokens := Function.update db.accessTokens token.offerId (some token) }
  | offer (offer : CredentialOffer) (absent : db.offers offer.id = none)
      (pending : offer.state = .pending) :
      Effect db { db with offers := Function.update db.offers offer.id (some offer) }
  | cancel (offer : CredentialOffer) (now : DateTime) (present : db.offers offer.id = some offer)
      (pending : offer.state = .pending) :
      Effect db { db with
        offers := Function.update db.offers offer.id (some (offer.asCancelled now)) }
  | issue (offer : CredentialOffer) (now : DateTime) (row : IssuedCredential)
      (present : db.offers offer.id = some offer) (pending : offer.state = .pending)
      (absent : db.credentials row.id = none) (rowOffer : row.credentialOfferId = offer.id)
      (rowIssuer : row.issuerId = offer.issuerId) :
      Effect db { db with
        offers := Function.update db.offers offer.id (some (offer.asIssued now))
        accessTokens := Function.update db.accessTokens offer.id none
        credentials := Function.update db.credentials row.id (some row) }
  | deactivate (request : MarkRequest) (issuer : Issuer)
      (present : db.issuers request.issuerId = some issuer)
      (tenant : issuer.tenantId = request.tenantId) :
      Effect db { db with
        issuers := Function.update db.issuers request.issuerId
          (some { issuer with state := some .deactivated })
        offers := db.cancelPending request }

/-- The token row of an offer stays until the offer is issued. -/
def Stands (db : Database) (token : AccessToken) : Prop :=
  db.accessTokens token.offerId = some token ∨
    ∃ offer, db.offers token.offerId = some offer ∧ offer.state = .issued

variable {db after : Database}

theorem cancelPending_cases (db : Database) (request : MarkRequest) (id : CredentialOfferId) :
    db.cancelPending request id = db.offers id ∧
        CredentialOffers.isPending request.tenantId request.issuerId (db.offers id) = false ∨
      ∃ offer, db.offers id = some offer ∧ offer.state = .pending ∧
        db.cancelPending request id = some (offer.asCancelled request.now) := by
  unfold cancelPending
  cases found : db.offers id with
  | none => exact .inl ⟨by simp [CredentialOffers.isPending], rfl⟩
  | some offer =>
      by_cases pending :
          CredentialOffers.isPending request.tenantId request.issuerId (some offer) = true
      · rw [if_pos pending]
        exact .inr ⟨offer, rfl, (CredentialOffers.isPending_some.mp pending).2, rfl⟩
      · rw [if_neg pending]
        exact .inl ⟨rfl, by simpa using pending⟩

/-- An offer that has left `Pending` is never written again. -/
theorem effect_settled (effect : Effect db after) {id : CredentialOfferId}
    {offer : CredentialOffer} (stored : db.offers id = some offer)
    (settled : offer.state ≠ .pending) : after.offers id = some offer := by
  have other : ∀ row : CredentialOffer, db.offers row.id = some row → row.state = .pending →
      id ≠ row.id := by
    rintro row present pending rfl
    rw [present] at stored
    cases stored
    exact settled pending
  cases effect with
  | unchanged | nonces rows | token token absent => exact stored
  | offer row absent pending =>
      have different : id ≠ row.id := by
        rintro rfl
        rw [absent] at stored
        cases stored
      exact (Function.update_of_ne different ..).trans stored
  | cancel row now present pending =>
      exact (Function.update_of_ne (other row present pending) ..).trans stored
  | issue row now credential present pending absent rowOffer rowIssuer =>
      exact (Function.update_of_ne (other row present pending) ..).trans stored
  | deactivate request issuer present tenant =>
      rcases cancelPending_cases db request id with ⟨same, _⟩ | ⟨row, present, pending, _⟩
      · exact same.trans stored
      · rw [stored] at present
        cases present
        exact absurd pending settled

/-- Where an offer comes from: it is new and pending, it is unchanged, or it was pending and has
been settled. -/
theorem effect_origin (effect : Effect db after) {id : CredentialOfferId}
    {offer : CredentialOffer} (stored : after.offers id = some offer) :
    (db.offers id = none ∧ offer.id = id ∧ offer.state = .pending) ∨
      db.offers id = some offer ∨
      ∃ before now, db.offers id = some before ∧ before.state = .pending ∧
        (offer = before.asIssued now ∨ offer = before.asCancelled now) := by
  cases effect with
  | unchanged | nonces rows | token token absent => exact .inr (.inl stored)
  | offer row absent pending =>
      rcases update_some stored with ⟨rfl, here⟩ | ⟨_, old⟩
      · cases here
        exact .inl ⟨absent, rfl, pending⟩
      · exact .inr (.inl old)
  | cancel row now present pending =>
      rcases update_some stored with ⟨rfl, here⟩ | ⟨_, old⟩
      · cases here
        exact .inr (.inr ⟨row, now, present, pending, .inr rfl⟩)
      · exact .inr (.inl old)
  | issue row now credential present pending absent rowOffer rowIssuer =>
      rcases update_some stored with ⟨rfl, here⟩ | ⟨_, old⟩
      · cases here
        exact .inr (.inr ⟨row, now, present, pending, .inl rfl⟩)
      · exact .inr (.inl old)
  | deactivate request issuer present tenant =>
      rcases cancelPending_cases db request id with ⟨same, _⟩ | ⟨row, present, pending, now⟩
      · exact .inr (.inl (same.symm.trans stored))
      · cases now.symm.trans stored
        exact .inr (.inr ⟨row, request.now, present, pending, .inr rfl⟩)

theorem effect_kept (effect : Effect db after) {id : CredentialOfferId} {offer : CredentialOffer}
    (stored : db.offers id = some offer) : after.offers id ≠ none := by
  intro gone
  have unchanged : after.offers id ≠ db.offers id := by
    rw [gone, stored]
    exact fun absurd_ => by cases absurd_
  have rewritten : ∀ {key : CredentialOfferId} {row : CredentialOffer},
      Function.update db.offers key (some row) id ≠ none := by
    intro key row
    by_cases same : id = key
    · subst same
      rw [Function.update_self]
      exact Option.some_ne_none _
    · rw [Function.update_of_ne same, stored]
      exact Option.some_ne_none _
  cases effect with
  | unchanged | nonces rows | token token absent => exact unchanged rfl
  | offer row absent pending => exact rewritten gone
  | cancel row now present pending => exact rewritten gone
  | issue row now credential present pending absent rowOffer rowIssuer => exact rewritten gone
  | deactivate request issuer present tenant =>
      rcases cancelPending_cases db request id with ⟨same, _⟩ | ⟨row, _, _, now⟩
      · exact unchanged same
      · exact absurd (now.symm.trans gone) (Option.some_ne_none _)

theorem effect_stands (effect : Effect db after) {token : AccessToken} (stands : db.Stands token) :
    after.Stands token := by
  rcases stands with held | ⟨offer, present, issued⟩
  · cases effect with
    | unchanged | nonces rows | offer row absent pending | cancel row now present pending =>
        exact .inl held
    | deactivate request issuer present tenant => exact .inl held
    | token other absent =>
        have different : token.offerId ≠ other.offerId := by
          intro same
          rw [same, absent] at held
          cases held
        exact .inl ((Function.update_of_ne different ..).trans held)
    | issue row now credential present pending absent rowOffer rowIssuer =>
        by_cases same : token.offerId = row.id
        · exact .inr ⟨row.asIssued now, by rw [same]; exact Function.update_self .., rfl⟩
        · exact .inl ((Function.update_of_ne same ..).trans held)
  · have settled : offer.state ≠ .pending := by rw [issued]; decide
    exact .inr ⟨offer, effect_settled effect present settled, issued⟩

theorem effect_issuers (effect : Effect db after) {id : IssuerId} {issuer : Issuer}
    (present : db.issuers id = some issuer) :
    ∃ now, after.issuers id = some now ∧ now.id = issuer.id ∧ now.tenantId = issuer.tenantId := by
  cases effect with
  | deactivate request row found tenant =>
      by_cases same : id = request.issuerId
      · subst same
        rw [found] at present
        cases present
        exact ⟨_, Function.update_self .., rfl, rfl⟩
      · exact ⟨issuer, (Function.update_of_ne same ..).trans present, rfl, rfl⟩
  | _ => exact ⟨issuer, present, rfl, rfl⟩

theorem effect_issuersKeyed (effect : Effect db after)
    (keyed : ∀ id issuer, db.issuers id = some issuer → issuer.id = id) :
    ∀ id issuer, after.issuers id = some issuer → issuer.id = id := by
  cases effect with
  | deactivate request row found tenant =>
      intro id issuer stored
      rcases update_some stored with ⟨rfl, here⟩ | ⟨_, old⟩
      · cases here
        exact keyed _ row found
      · exact keyed id issuer old
  | _ => exact keyed

theorem effect_tokensKeyed (effect : Effect db after)
    (keyed : ∀ id token, db.accessTokens id = some token → token.offerId = id) :
    ∀ id token, after.accessTokens id = some token → token.offerId = id := by
  cases effect with
  | token row absent =>
      intro id token stored
      rcases update_some stored with ⟨rfl, here⟩ | ⟨_, old⟩
      · cases here
        rfl
      · exact keyed id token old
  | issue offer now row present pending absent rowOffer rowIssuer =>
      intro id token stored
      rcases update_some stored with ⟨rfl, here⟩ | ⟨_, old⟩
      · cases here
      · exact keyed id token old
  | _ => exact keyed

/-- Offers and credentials agree: a settled offer has no code, and exactly the issued ones have a
credential, one each. -/
structure Coherent (db : Database) : Prop where
  keyed : ∀ id offer, db.offers id = some offer → offer.id = id
  settled : ∀ id offer, db.offers id = some offer → offer.state = .pending ∨
    (offer.state = .issued ∨ offer.state = .cancelled) ∧ offer.preAuthCode = none
  backed : ∀ id row, db.credentials id = some row →
    ∃ offer, db.offers row.credentialOfferId = some offer ∧ offer.state = .issued
  delivered : ∀ id offer, db.offers id = some offer → offer.state = .issued →
    ∃ credentialId row, db.credentials credentialId = some row ∧ row.credentialOfferId = id
  single : ∀ id other row rival, db.credentials id = some row → db.credentials other = some rival →
    row.credentialOfferId = rival.credentialOfferId → id = other

/-- An effect that writes no credential settles no offer as issued. -/
private theorem coherent_same_credentials (coherent : Coherent db) (effect : Effect db after)
    (same : after.credentials = db.credentials)
    (issued : ∀ id offer, after.offers id = some offer → offer.state = .issued →
      db.offers id = some offer) : Coherent after where
  keyed := by
    intro id offer stored
    rcases effect_origin effect stored with ⟨_, key, _⟩ | old | ⟨before, now, old, _, rfl | rfl⟩
    · exact key
    · exact coherent.keyed id offer old
    · exact coherent.keyed id before old
    · exact coherent.keyed id before old
  settled := by
    intro id offer stored
    rcases effect_origin effect stored with ⟨_, _, pending⟩ | old | ⟨before, now, _, _, rfl | rfl⟩
    · exact .inl pending
    · exact coherent.settled id offer old
    · exact .inr ⟨.inl rfl, rfl⟩
    · exact .inr ⟨.inr rfl, rfl⟩
  backed := by
    intro id row present
    rw [same] at present
    rcases coherent.backed id row present with ⟨offer, stored, issued⟩
    have settled : offer.state ≠ .pending := by rw [issued]; decide
    exact ⟨offer, effect_settled effect stored settled, issued⟩
  delivered := by
    intro id offer stored state
    rw [same]
    exact coherent.delivered id offer (issued id offer stored state) state
  single := by
    rw [same]
    exact coherent.single

/-- The issuing effect: the offer was pending, so no credential named it before. -/
private theorem coherent_issue (coherent : Coherent db) {offer : CredentialOffer} {now : DateTime}
    {row : IssuedCredential} (present : db.offers offer.id = some offer)
    (pending : offer.state = .pending) (absent : db.credentials row.id = none)
    (rowOffer : row.credentialOfferId = offer.id) :
    Coherent { db with
      offers := Function.update db.offers offer.id (some (offer.asIssued now))
      accessTokens := Function.update db.accessTokens offer.id none
      credentials := Function.update db.credentials row.id (some row) } := by
  have unnamed : ∀ id other, db.credentials id = some other → other.credentialOfferId ≠ offer.id := by
    intro id other found same
    rcases coherent.backed id other found with ⟨named, stored, issued⟩
    rw [same, present] at stored
    cases stored
    rw [pending] at issued
    cases issued
  refine ⟨?_, ?_, ?_, ?_, ?_⟩
  · intro id found stored
    rcases update_some stored with ⟨rfl, here⟩ | ⟨_, old⟩
    · cases here
      rfl
    · exact coherent.keyed id found old
  · intro id found stored
    rcases update_some stored with ⟨rfl, here⟩ | ⟨_, old⟩
    · cases here
      exact .inr ⟨.inl rfl, rfl⟩
    · exact coherent.settled id found old
  · intro id found credential
    rcases update_some credential with ⟨rfl, here⟩ | ⟨_, old⟩
    · cases here
      exact ⟨offer.asIssued now, by rw [rowOffer]; exact Function.update_self .., rfl⟩
    · rcases coherent.backed id found old with ⟨named, stored, issued⟩
      exact ⟨named, (Function.update_of_ne (unnamed id found old) ..).trans stored, issued⟩
  · intro id found stored issued
    rcases update_some stored with ⟨rfl, here⟩ | ⟨_, old⟩
    · exact ⟨row.id, row, Function.update_self .., rowOffer⟩
    · rcases coherent.delivered id found old issued with ⟨credentialId, credential, held, named⟩
      have different : credentialId ≠ row.id := by
        rintro rfl
        rw [absent] at held
        cases held
      exact ⟨credentialId, credential, (Function.update_of_ne different ..).trans held, named⟩
  · intro id other found rival credential credential' same
    rcases update_some credential with ⟨rfl, here⟩ | ⟨_, old⟩
    · cases here
      rcases update_some credential' with ⟨rfl, _⟩ | ⟨_, oldRival⟩
      · rfl
      · exact absurd (same.symm.trans rowOffer) (unnamed other rival oldRival)
    · rcases update_some credential' with ⟨rfl, here⟩ | ⟨_, oldRival⟩
      · cases here
        exact absurd (same.trans rowOffer) (unnamed id found old)
      · exact coherent.single id other found rival old oldRival same

theorem effect_coherent (coherent : Coherent db) (effect : Effect db after) : Coherent after := by
  cases effect with
  | unchanged => exact coherent
  | nonces rows =>
      exact coherent_same_credentials coherent (.nonces rows) rfl fun _ _ stored _ => stored
  | token token absent =>
      exact coherent_same_credentials coherent (.token token absent) rfl fun _ _ stored _ => stored
  | offer row absent pending =>
      apply coherent_same_credentials coherent (.offer row absent pending) rfl
      intro id offer stored issued
      rcases update_some stored with ⟨rfl, here⟩ | ⟨_, old⟩
      · cases here
        rw [issued] at pending
        cases pending
      · exact old
  | cancel row now present pending =>
      apply coherent_same_credentials coherent (.cancel row now present pending) rfl
      intro id offer stored issued
      rcases update_some stored with ⟨rfl, here⟩ | ⟨_, old⟩
      · cases here
        cases issued
      · exact old
  | issue offer now row present pending absent rowOffer rowIssuer =>
      exact coherent_issue coherent present pending absent rowOffer
  | deactivate request issuer present tenant =>
      apply coherent_same_credentials coherent (.deactivate request issuer present tenant) rfl
      intro id offer stored issued
      rcases cancelPending_cases db request id with ⟨same, _⟩ | ⟨row, _, _, now⟩
      · exact same.symm.trans stored
      · cases now.symm.trans stored
        cases issued

end Database

end SwiyuIssuer.Oidc
