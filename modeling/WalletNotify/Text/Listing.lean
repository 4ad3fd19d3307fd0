/-!
# Listings

A list of texts as one line, for messages to people.
-/

namespace WalletNotify.Text

/-- The texts in brackets with commas between them, or `None` if there is nothing to show. -/
def listing (items : List String) : String :=
  let joined := ", ".intercalate items
  if joined.isEmpty then "None" else "[" ++ joined ++ "]"

end WalletNotify.Text
