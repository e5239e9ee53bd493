import AccessNetwork.Address.Parse
import AccessNetwork.Config.Basic
import AccessNetwork.Identity.Generator

/-!
Errors as they are reported: a class, a message and, for the classes of this library's own, a code
and details by field. This library's errors have lists of messages as details; an error made by
somebody else may have anything. The text of an error is its class, followed by the message if there
is one.
-/

namespace AccessNetwork

open AccessNetwork.Schema

set_option autoImplicit false

inductive FaultClass where
  | invalidAddress
  | config
  | range
  | type
  | general
  deriving DecidableEq, Repr

namespace FaultClass

def name : FaultClass → String
  | .invalidAddress => "InvalidAddressError"
  | .config => "ConfigError"
  | .range => "RangeError"
  | .type => "TypeError"
  | .general => "Error"

def code? : FaultClass → Option String
  | .invalidAddress => some "INVALID_ADDRESS"
  | .config => some "INVALID_CONFIG"
  | _ => none

def isOwn (faultClass : FaultClass) : Bool := faultClass.code?.isSome

def standardMessage : FaultClass → String
  | .invalidAddress => "Invalid address"
  | .config => "Invalid configuration"
  | _ => ""

end FaultClass

structure Fault where
  faultClass : FaultClass
  message : String
  details : List (String × Value)

def messageDetails (fields : FieldMessages) : List (String × Value) :=
  fields.map fun field => (field.1, .list (field.2.map .text))

namespace Fault

def create (faultClass : FaultClass) (message : Written) (details : Value) : Fault :=
  ⟨faultClass, if message.value.isAbsent then faultClass.standardMessage else message.spelling,
    details.listing⟩

def text (fault : Fault) : String :=
  if fault.message.isEmpty then fault.faultClass.name
  else fault.faultClass.name ++ ": " ++ fault.message

end Fault

def AddressError.fault (error : AddressError) : Fault :=
  ⟨.invalidAddress, error.message, messageDetails error.fields⟩

def ConfigError.fault (error : ConfigError) : Fault :=
  ⟨.config, error.message, messageDetails error.fields⟩

def MissingValue.fault (missing : MissingValue) : Fault := ⟨.type, missing.message, []⟩

def Identity.BoundError.fault (error : Identity.BoundError) : Fault :=
  ⟨.range, error.message, []⟩

inductive Caught where
  | fault (raised : Fault)
  | value (thrown : Value)

def Caught.isOwn : Caught → Bool
  | .fault raised => raised.faultClass.isOwn
  | .value _ => false

end AccessNetwork
