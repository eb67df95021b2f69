import SwiyuIssuer.Domain.Numbers

/-! What the BFF keeps of a logged-in admin, and how it reads the accounts of an identity. -/

namespace SwiyuIssuer.Bff

structure SessionAccount where
  id : String
  tenantId : String
  tenantDisplayName : Option String
  displayName : String
deriving DecidableEq, Repr

structure SessionData where
  iss : String
  sub : String
  kcAccessToken : String
  kcRefreshToken : String
  kcIdToken : String
  kcAccessExpiryUnix : Int
  loggedInAtUnix : Int
  accounts : List SessionAccount
  selectedAccountId : String
deriving DecidableEq, Repr

def SessionData.selected (data : SessionData) : Option SessionAccount :=
  data.accounts.find? fun account => account.id == data.selectedAccountId

/-- `saturating_add` stops at the largest `i64`. -/
def SessionData.isLive (data : SessionData) (nowUnix absoluteTimeoutSecs : Int) : Bool :=
  nowUnix < min (data.loggedInAtUnix + absoluteTimeoutSecs) (2 ^ 63 - 1)

def textField (item : Json) (key : String) : Option String := (item.get key).bind Json.asStr

/-- A text that is not empty. -/
def nameField (item : Json) (key : String) : Option String :=
  (textField item key).filter fun text => text != ""

def joinNames (first last : Option String) : Option String :=
  match [first, last].filterMap id with
  | [] => none
  | parts => some (" ".intercalate parts)

def displayName (item : Json) : String :=
  ((joinNames (nameField item "idp_first_name") (nameField item "idp_last_name")).or
    ((joinNames (nameField item "provisioning_first_name")
      (nameField item "provisioning_last_name")).or (nameField item "id"))).getD ""

def sessionAccount (item : Json) : Option SessionAccount := do
  let id ← textField item "id"
  let tenantId ← textField item "tenant_id"
  return ⟨id, tenantId, textField item "tenant_display_name", displayName item⟩

def activeAccounts (resolved : Json) : List SessionAccount :=
  match resolved.get "items" with
  | some (.array items) =>
      (items.filter fun item => textField item "state" == some "active").filterMap sessionAccount
  | _ => []

end SwiyuIssuer.Bff
