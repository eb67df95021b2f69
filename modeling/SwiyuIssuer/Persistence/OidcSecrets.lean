import SwiyuIssuer.Domain.CredentialOffer
import SwiyuIssuer.Library.RowLock

/-! The statements of `persistence::oidc::access_tokens` and `persistence::oidc::nonces`.

`UNIQUE (offer_id)` makes the offer a key of `oidc_access_tokens`, and the rows are kept under it.
`none` is a statement that waits for a row lock. -/

namespace SwiyuIssuer.Persistence

open Library

namespace AccessTokens

variable {τ : Type} [DecidableEq τ]

/-- The `WHERE` clause of `find_valid_by_hash`. -/
def isValid (tokenHash : AccessTokenHash) (now : DateTime) : Option AccessToken → Bool
  | some token => token.tokenHash == tokenHash && decide (now < token.expiresAt)
  | none => false

/-- Outside any transaction. -/
def insert (table : Table τ CredentialOfferId (Option AccessToken)) (token : AccessToken) :
    Option (Except PersistenceError (Table τ CredentialOfferId (Option AccessToken))) :=
  match (table token.offerId).writer, (table token.offerId).committed with
  | some _, _ => none
  | none, some _ => some (.error (.uniqueViolation "oidc_access_tokens_offer_id_key"))
  | none, none => some (.ok (Function.update table token.offerId
      ((table token.offerId).autocommit fun _ => some token)))

/-- `ids` are the keys in use, `found` the one of the row that the query answers with; `none` also
when that is not an answer it can give. -/
def findValidByHash (table : Table τ CredentialOfferId (Option AccessToken)) (t : τ)
    (ids : List CredentialOfferId) (tokenHash : AccessTokenHash) (now : DateTime)
    (found : Option CredentialOfferId) : Option (Option AccessToken) :=
  match found with
  | some id => if isValid tokenHash now ((table id).read t) then some ((table id).read t) else none
  | none => if ids.all fun id => !isValid tokenHash now ((table id).read t) then some none else none

/-- The hash of `token` can only stand in the row that `token` was read from. -/
def deleteByHash (table : Table τ CredentialOfferId (Option AccessToken)) (t : τ)
    (token : AccessToken) : Option (Table τ CredentialOfferId (Option AccessToken)) :=
  if ((table token.offerId).read t).any fun row => row.tokenHash == token.tokenHash then
    if (table token.offerId).free t then some (table.update t token.offerId fun _ => none)
    else none
  else some table

variable {table after : Table τ CredentialOfferId (Option AccessToken)} {t : τ}
  {token : AccessToken}

omit [DecidableEq τ] in
theorem insert_ok (inserted : insert table token = some (.ok after)) :
    (table token.offerId).writer = none ∧ (table token.offerId).committed = none ∧
      after = Function.update table token.offerId
        ((table token.offerId).autocommit fun _ => some token) := by
  unfold insert at inserted
  split at inserted
  · cases inserted
  · cases inserted
  · next unlocked absent =>
      cases inserted
      exact ⟨unlocked, absent, rfl⟩

theorem findValidByHash_some {ids : List CredentialOfferId} {tokenHash : AccessTokenHash}
    {now : DateTime} {found : Option CredentialOfferId}
    (answered : findValidByHash table t ids tokenHash now found = some (some token)) :
    ∃ id, (table id).read t = some token ∧ token.tokenHash = tokenHash ∧
      now < token.expiresAt := by
  unfold findValidByHash at answered
  cases found with
  | none =>
      dsimp only at answered
      split at answered <;> cases answered
  | some id =>
      dsimp only at answered
      split at answered
      · next valid =>
          have seen := Option.some.inj answered
          rw [seen, isValid, Bool.and_eq_true, beq_iff_eq, decide_eq_true_eq] at valid
          exact ⟨id, seen, valid⟩
      · cases answered

theorem deleteByHash_snapshot (deleted : deleteByHash table t token = some after) :
    after.snapshot = table.snapshot := by
  unfold deleteByHash at deleted
  split at deleted
  · split at deleted
    · cases deleted
      exact Table.snapshot_update ..
    · cases deleted
  · cases deleted
    rfl

theorem deleteByHash_own (seen : (table token.offerId).read t = some token)
    (deleted : deleteByHash table t token = some after) :
    (table token.offerId).free t = true ∧
      after = table.update t token.offerId fun _ => none := by
  simp only [deleteByHash, seen, Option.any_some, beq_self_eq_true, if_true] at deleted
  split at deleted
  · next free =>
      cases deleted
      exact ⟨free, rfl⟩
  · cases deleted

end AccessTokens

namespace Nonces

/-- Every statement on `oidc_nonces` runs outside any transaction. -/
abbrev Rows := NonceHash → Option Nonce

def insert (rows : Rows) (nonce : Nonce) : Except PersistenceError Rows :=
  match rows nonce.nonceHash with
  | some _ => .error (.uniqueViolation "oidc_nonces_pkey")
  | none => .ok (Function.update rows nonce.nonceHash (some nonce))

/-- The rows that the `DELETE` leaves, and the row whose `offer_id` it returns. -/
def consumeByHash (rows : Rows) (nonceHash : NonceHash) (now : DateTime) :
    Rows × Option Nonce :=
  match rows nonceHash with
  | some nonce =>
      if now < nonce.expiresAt then (Function.update rows nonceHash none, some nonce)
      else (rows, none)
  | none => (rows, none)

theorem insert_ok {rows after : Rows} {nonce : Nonce} (inserted : insert rows nonce = .ok after) :
    rows nonce.nonceHash = none ∧ after = Function.update rows nonce.nonceHash (some nonce) := by
  unfold insert at inserted
  split at inserted
  · cases inserted
  · next absent =>
      cases inserted
      exact ⟨absent, rfl⟩

theorem consumeByHash_some {rows after : Rows} {nonceHash : NonceHash} {now : DateTime}
    {nonce : Nonce} (consumed : consumeByHash rows nonceHash now = (after, some nonce)) :
    rows nonceHash = some nonce ∧ now < nonce.expiresAt ∧
      after = Function.update rows nonceHash none := by
  unfold consumeByHash at consumed
  split at consumed
  · next present =>
      split at consumed
      · next live =>
          cases consumed
          exact ⟨present, live, rfl⟩
      · cases consumed
  · cases consumed

end Nonces

end SwiyuIssuer.Persistence
