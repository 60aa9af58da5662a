import VmDeploy.Text.Quoted

/-!
# Tunnel options
-/

set_option autoImplicit false

namespace VmDeploy

/-- Between which ports a tunnel forwards, and how its server is reached. -/
structure TunnelOptions where
  host : String
  port : UInt16
  user : String
  password : String
  /-- The path of a key file; empty if there is none. -/
  privateKey : String
  localPort : UInt16
  remotePort : UInt16
  deriving DecidableEq, Repr, Inhabited

/-- The diagnostic text of options. -/
def TunnelOptions.diagnostic (o : TunnelOptions) : String :=
  "Options \x7b host: " ++ Text.Quoted.quote o.host
    ++ ", port: " ++ toString o.port.toNat
    ++ ", user: " ++ Text.Quoted.quote o.user
    ++ ", password: " ++ Text.Quoted.quote o.password
    ++ ", private_key: " ++ Text.Quoted.quote o.privateKey
    ++ ", local_forward_port: " ++ toString o.localPort.toNat
    ++ ", remote_forward_port: " ++ toString o.remotePort.toNat ++ " \x7d"

end VmDeploy
