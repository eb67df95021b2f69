import SwiyuIssuer.Oidc.Provenance

/-! When the next statement of a `/token` or `/credential` request succeeds. -/

namespace SwiyuIssuer.Oidc

open Library Persistence StatusStore

variable {config : Config} {state : State} {t : TxId}

end SwiyuIssuer.Oidc
