import WalletNotify.Schema.Preview
import WalletNotify.Schema.Stable

/-!
# Catalogue of messages

Every message type of both packages.
-/

namespace WalletNotify.Schema

/-- The message types of both packages. -/
def catalogue : List Declaration := Stable.declarations ++ Preview.declarations

/-- The message type of a qualified name. -/
def find? (qualifiedName : String) : Option Declaration :=
  catalogue.find? fun d => d.qualifiedName == qualifiedName

end WalletNotify.Schema
