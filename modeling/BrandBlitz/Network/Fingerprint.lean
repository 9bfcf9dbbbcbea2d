import BrandBlitz.Stellar.Client

/-!
# BrandBlitz.Network.Fingerprint

**The fingerprint of a device** (`apps/api/src/lib/fingerprint.ts`). The sign-up of a referred user
and the start of a session each look up which accounts a device was seen with, under this text.

SHA-256, in hexadecimal, is a parameter. Nothing in the development depends on what it computes;
only that the same request always has the same fingerprint.
-/

namespace BrandBlitz.Network

structure FingerprintParams where
  visitorId : Option Text
  deviceId : Option Text
  ip : Option Text
  userAgent : Option Text
deriving DecidableEq, Repr

/-- `${visitorId}|${deviceId}:${ip24}:${uaHash}`, hashed. -/
def computeFingerprint (sha256 : Text → Text) (params : FingerprintParams) : Text :=
  -- both identifiers that the client supplies: to rotate one of them does not help
  let clientSig := params.visitorId.getD [] ++ '|' :: params.deviceId.getD []
  -- a 24-bit prefix of the address
  let ip24 := ['.'].intercalate (((params.ip.getD []).splitOn '.').take 3)
  let uaHash := (sha256 (params.userAgent.getD [])).take 8
  sha256 (clientSig ++ ':' :: ip24 ++ ':' :: uaHash)

end BrandBlitz.Network
