import AsioForwarder.LoginGate
import AsioForwarder.RequestOutcomes

/-!
# What becomes of the frames before a login

A frame of a session which has not logged in stops the session, is answered
with an error and has changed nothing, or makes the session one of the account
it names, whose oldest sessions beyond the limit are then told to close.  In
the server nobody acts on the tables between the statements of a call, so the
call is the one of `LoginGate` with others who do nothing.
-/

namespace AsioForwarder

open Interaction
open AsioForwarder.Frame

/-! ## The store call alone -/

namespace MysqlStore

end MysqlStore

variable {cfg : Config} {unpack : Bytes → Option Obj}

section Store

variable {env : Env} {hub : Hub} {login : LoginBody}

end Store

/-! ## `try_authenticate` in the server -/

section Login

variable {c : ConnId} {e : Entered} {mp : ObjMap} {sender : Identity}
  {steps : List Performed}

end Login

/-! ## Runs -/

namespace Server

end Server

end AsioForwarder
