import Retrieval.Fault
import Retrieval.Text.Words
import Retrieval.Url.Target

/-!
# Allowed origins

Which web pages may use the service is a setting: nothing, which allows every origin, or a list of
origins separated by commas.  An entry that cannot be the value of a header is passed over.  The
wildcard is not an origin, and a list that holds it is refused.
-/

namespace Retrieval.Server

/-- The origins that are allowed. -/
inductive Origins where
  | any
  | listed (origins : List String)
  deriving Repr, DecidableEq

namespace Origins

/-- Whether the text can be the value of a header: no control character but the tab. -/
def isHeaderValue (text : List Char) : Bool :=
  text.all fun c => (0x20 ≤ c.toNat && c.toNat != 0x7F) || c = '\t'

/-- What stands for every origin. -/
def wildcard : List Char := ['*']

/-- The origins of a setting. -/
def ofSetting? : Option String → Except Fault Origins
  | none => .ok .any
  | some setting =>
    let entries := ((Url.splitAt ',' setting.toList).map Text.trim).filter isHeaderValue
    if entries.isEmpty then .ok .any
    else if wildcard ∈ entries then .error .wildcardOrigin
    else .ok (.listed (entries.map String.ofList))

/-- What an answer says about the origin that asked. -/
def allowed? (origins : Origins) (origin? : Option String) : Option String :=
  match origins, origin? with
  | any, _ => some (String.ofList wildcard)
  | listed origins, some origin => if origin ∈ origins then some origin else none
  | listed _, none => none

end Origins

end Retrieval.Server
