import ApiCatalog.Config.Reader
import ApiCatalog.Config.Validation

/-! # Environment variables

Variables of the environment take the place of single settings of a configuration.
-/

namespace ApiCatalog

inductive PortFault where
  | empty
  | invalidDigit
  | tooLarge
  deriving DecidableEq, Repr

namespace PortFault

def message : PortFault → String
  | empty => "cannot parse integer from empty string"
  | invalidDigit => "invalid digit found in string"
  | tooLarge => "number too large to fit in target type"

end PortFault

namespace Port

/-- The number of 16 bits that follows `n` when digits are added. -/
def addDigits (n : Nat) : List Char → Except PortFault Nat
  | [] => .ok n
  | c :: cs =>
    if !c.isDigit then .error .invalidDigit
    else
      let n' := n * 10 + (c.toNat - '0'.toNat)
      if n' < wordSize 16 then addDigits n' cs else .error .tooLarge

/-- The port that digits say, after an optional plus sign. -/
def parse (text : String) : Except PortFault Nat :=
  match text.toList with
  | [] => .error .empty
  | ['+'] => .error .invalidDigit
  | '+' :: cs => addDigits 0 cs
  | cs => addDigits 0 cs

end Port

abbrev Environment := List (String × String)

namespace Config

def override (env : Environment) (config : Config) : Except Error Config := do
  let bindAddress := (env.lookup "MGMT_SERVER_BIND_ADDRESS").getD config.server.bindAddress
  let port ← match env.lookup "MGMT_SERVER_PORT" with
    | none => pure config.server.port
    | some text =>
      match Port.parse text with
      | .ok port => pure port
      | .error fault => throw (.configuration s!"Invalid MGMT_SERVER_PORT: {fault.message}")
  let requestTimeout ← match env.lookup "MGMT_SERVER_REQUEST_TIMEOUT" with
    | none => pure config.server.requestTimeout
    | some text =>
      match Duration.parse text with
      | .ok timeout => pure timeout
      | .error fault =>
        throw (.configuration s!"Invalid MGMT_SERVER_REQUEST_TIMEOUT: {fault.message}")
  let level := (env.lookup "MGMT_LOG_LEVEL").getD config.logging.level
  let format := (env.lookup "MGMT_LOG_FORMAT").getD config.logging.format
  let defaultVersion :=
    (env.lookup "MGMT_EXPORT_DEFAULT_VERSION").getD config.exports.defaultVersion
  return { config with
    server := ⟨bindAddress, port, requestTimeout⟩
    logging := ⟨level, format⟩
    exports := ⟨defaultVersion⟩ }

/-- The configuration as the environment changes it, if it is valid. -/
def settle (env : Environment) (config : Config) : Except Error Config := do
  let config ← config.override env
  config.validate
  return config

def load (env : Environment) (format : ConfigFormat) (content : Option (List UInt8)) :
    Except Error Config := do
  settle env (← ofFile format content)

end Config

end ApiCatalog
