/-! Identifiers and clock readings. -/

namespace SwiyuIssuer

/-- One instance of `define_id!`: the bare text, under the prefix that `Display` puts before it. -/
structure Id (label : String) where
  bare : String
deriving DecidableEq, Repr

instance {label : String} : LawfulBEq (Id label) := inferInstance

def Id.display {label : String} (id : Id label) : String := label ++ "_" ++ id.bare

abbrev TenantId := Id "tenant"
abbrev IssuerId := Id "issuer"
abbrev CredentialOfferId := Id "offer"
abbrev IssuedCredentialId := Id "credential"
abbrev StatusListId := Id "status_list"
abbrev TaskId := Id "task"
abbrev CredentialTypeId := Id "ctype"

/-- Microseconds since the epoch, the resolution of `TIMESTAMPTZ`. -/
abbrev DateTime := Int

def milliseconds (count : Int) : Int := count * 1000

def seconds (count : Int) : Int := milliseconds (count * 1000)

def hours (count : Int) : Int := seconds (count * 3600)

end SwiyuIssuer
