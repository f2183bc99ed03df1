import NetProfile.Catalogue
import NetProfile.Net.Uuid

/-!
What edits and suggestions know of the world around the profile.
-/

namespace NetProfile

structure KnownProfile where
  uuid : String
  interface : Option String
  type : String
deriving DecidableEq, Repr

structure Context where
  catalogue : Catalogue
  /-- Names of the devices. -/
  devices : List String := []
  profiles : List KnownProfile := []
  /-- An identifier that no profile has yet. -/
  freshUuid : Uuid
deriving DecidableEq, Repr

end NetProfile
