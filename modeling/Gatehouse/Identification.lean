/-!
# The identification of the service

Main definitions: `Identification` and `identification`.
-/

namespace Gatehouse

/-- What the service tells about itself. -/
structure Identification where
  name : String
  /-- What the service is for. -/
  purpose : String
  version : String
  /-- The revision that the program was built from. -/
  revision : String
  deriving DecidableEq, Repr

/-- The identification of this service. -/
def identification : Identification :=
  ⟨"portcullis", "Identity provider core and forward-authorization service", "0.1.0", "unknown"⟩

end Gatehouse
