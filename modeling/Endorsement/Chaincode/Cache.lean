import Endorsement.Event
import Endorsement.Table

/-!
# Chaincode data

The data of a chaincode, its policy above all, is asked of a provider and
remembered until it is invalidated. Failures are not remembered.

* `Chaincode`, `ChaincodeProvider`: the data, and who is asked;
* `ChaincodeCache.query`: asking by way of the cache;
* `ChaincodeCache.invalidate`, `ChaincodeCache.clear`: forgetting the data of
  one chaincode, and of all.
-/

namespace Endorsement

/-- The data of a chaincode. -/
structure Chaincode where
  name : String
  version : String
  /-- The encoded policy. -/
  policy : List UInt8
  deriving DecidableEq, Repr

instance : Wire Chaincode where
  encode c := Wire.encode c.name ++ Wire.encode c.version ++ Wire.encode c.policy
  decode := do
    let name ← Wire.decode
    let version ← Wire.decode
    let policy ← Wire.decode
    return { name, version, policy }

/-- Who knows the data of the chaincodes on each channel, asked in `m`. -/
abbrev ChaincodeProvider (m : Type → Type) :=
  (channel chaincode : String) → m (Except Failure Chaincode)

/-- The data remembered, by channel and chaincode. -/
abbrev ChaincodeCache := Table (String × String) Chaincode

namespace ChaincodeCache

/-- Forgets the data of a chaincode. -/
def invalidate (channel chaincode : String) (cache : ChaincodeCache) : ChaincodeCache :=
  cache.erase (channel, chaincode)

/-- Forgets all data. -/
def clear (_ : ChaincodeCache) : ChaincodeCache := .empty

variable {m : Type → Type} [Monad m] [MonadLiftT Logged m]

/-- The data of a chaincode: what is remembered, or what the provider answers,
    which is remembered if it is data. -/
def query (provider : ChaincodeProvider m) : ChaincodeProvider (StateT ChaincodeCache m) :=
  fun channel chaincode => do
    match (← get).find? (channel, chaincode) with
    | some data => return .ok data
    | none =>
      report (.chaincodeQueried channel chaincode)
      match ← provider channel chaincode with
      | .error failure => return .error failure
      | .ok data =>
        modify fun cache => cache.insert (channel, chaincode) data
        return .ok data

end ChaincodeCache

end Endorsement
