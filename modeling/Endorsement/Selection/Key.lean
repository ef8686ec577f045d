import Endorsement.Peer

/-!
# Selection keys

A request for endorsers names a channel and some chaincodes. The order of the
chaincodes does not matter: the key of a request holds them sorted, as texts
ordered by their characters, repeats included.
-/

namespace Endorsement.Selection

/-- A channel and sorted chaincodes. -/
structure Key where
  channel : String
  chaincodes : List String
  deriving DecidableEq, Repr

namespace Key

/-- The key of a request. -/
def ofRequest (channel : String) (chaincodes : List String) : Key :=
  ⟨channel, chaincodes.mergeSort fun a b => decide (a ≤ b)⟩

/-- The chaincodes of a key, with commas between them. -/
def chaincodeText (key : Key) : String :=
  String.intercalate "," key.chaincodes

/-- A key on one line. -/
def text (key : Key) : String :=
  key.channel ++ ":" ++ key.chaincodeText

end Key

end Endorsement.Selection
