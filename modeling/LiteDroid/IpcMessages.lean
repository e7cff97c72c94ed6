import Mathlib.Algebra.Group.Nat.Defs

/-!
# Messages between clients and the daemon

Requests and responses of the wire protocol, with the JSON values they
carry as far as the daemon builds or reads them.
-/

namespace LiteDroid.IpcMessages

/-- Wire protocol version. -/
def ipcProtocolVersion : UInt32 := 1

/-- A JSON value. -/
inductive Json where
  /-- The null value. -/
  | null
  /-- A truth value. -/
  | bool (value : Bool)
  /-- A natural number. -/
  | num (value : ℕ)
  /-- A decimal number with one place, in tenths. -/
  | tenths (value : ℕ)
  /-- A text. -/
  | str (value : String)
  /-- A list of values. -/
  | arr (items : List Json)
  /-- An object, in key order. -/
  | obj (fields : List (String×Json))

/-- The field of an object. -/
def Json.get? : Json → String → Option Json
  | .obj fields,key => (fields.find? fun field => field.1=key).map Prod.snd
  | _,_ => none

/-- The text of a string value. -/
def Json.asStr? : Json → Option String
  | .str value => some value
  | _ => none

/-- The value of a natural number that fits 64 bits. -/
def Json.asU64? : Json → Option UInt64
  | .num value => if value < 2^64 then some (UInt64.ofNat value) else none
  | _ => none

/-- A request of a client. -/
structure IpcRequest where
  /-- Protocol version of the client. -/
  version : UInt32
  /-- Identifier chosen by the client. -/
  requestId : String
  /-- Name of the method. -/
  method : String
  /-- Parameters of the method. -/
  params : Json

/-- A response of the daemon. -/
structure IpcResponse where
  /-- Protocol version of the daemon. -/
  version : UInt32
  /-- Identifier of the request it answers. -/
  requestId : String
  /-- Whether the request succeeded. -/
  success : Bool
  /-- What a successful request returned. -/
  result : Option Json
  /-- Why a request failed. -/
  error : Option String

/-- A text parameter of a request. -/
def IpcRequest.param (req : IpcRequest) (key : String) : Option String :=
  (req.params.get? key).bind Json.asStr?

/-- The response to a request that succeeded. -/
def makeOk (req : IpcRequest) (result : Json) : IpcResponse :=
  ⟨ipcProtocolVersion,req.requestId,true,some result,none⟩

/-- The response to a request that failed. -/
def makeErr (req : IpcRequest) (message : String) : IpcResponse :=
  ⟨ipcProtocolVersion,req.requestId,false,none,some message⟩

end LiteDroid.IpcMessages
