import LedgerGateway.Hash.Blake2b
import LedgerGateway.Hash.Keccak

/-! The two hash values that the chain uses: the 32-octet digest of actions and signed preimages,
and the 20-octet one that names protocol accounts. -/

namespace LedgerGateway.Hash

/-- The digest that identifies an action and that is signed. -/
def digest256 (message : Bytes) : Digest := Blake2b.hash message

/-- The last 20 octets of the digest. -/
def digest160 (message : Bytes) : Octets 20 :=
  ⟨(digest256 message).bytes.drop 12, by simp [(digest256 message).length_eq]⟩

/-- The digest from which the address of a public key is cut. -/
def keccak256 (message : Bytes) : Digest := Keccak.hash message

end LedgerGateway.Hash
