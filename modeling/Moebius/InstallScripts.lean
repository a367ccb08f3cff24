import Moebius.Hex

/-!
Install scripts.

The server writes an install script for a platform. The address it was reached at, the version and
the checksum of the installer and the enrollment token go into assignments, between quotes, and the
version also into a comment at the top. Nothing is escaped. The address comes from headers of the
request, the version and the checksum are whatever was registered.
-/

namespace Moebius.InstallScripts

open List

structure Request where
  tls : Bool
  host : String
  forwardedProto : String := ""
  forwardedHost : String := ""

variable (os baseURL : String) (inst : Installer) (token : String)

/-- The text has none of these characters. -/
def Without (chars : List Char) (s : String) : Prop := ∀ c ∈ s.toList, c ∉ chars

instance (chars : List Char) (s : String) : Decidable (Without chars s) :=
  List.decidableBAll (· ∉ chars) s.toList

variable {value newlines chars : List Char} {inst : Installer}

variable (baseURL token : String)

namespace Sample

def request (forwardedHost : String) : Request := ⟨true, "moebius.example", "", forwardedHost⟩

end Sample

open Sample

end Moebius.InstallScripts
