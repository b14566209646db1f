import Haulage.FieldErrors
import Haulage.Identifier

/-! Street addresses and the five-digit postal code that routing and zones go by. -/
namespace Haulage

structure Address where
  id : AddressId
  street1 : String
  street2 : Option String
  city : String
  state : String
  postalCode : String
deriving DecidableEq, Inhabited

/-- The first five bytes of a postal code without the blanks around it; the whole of
one that cannot be cut there. -/
def zip5 (postalCode : String) : List Char :=
  let trimmed := trimBlank postalCode.toList
  (bytePrefix? 5 trimmed).getD trimmed

namespace Address

def zip5 (a : Address) : String := String.ofList (Haulage.zip5 a.postalCode)

def validate (a : Address) : FieldErrors :=
  FieldErrors.empty
    |>.addIf (isBlankText a.street1) "street_address_1" "can not be blank"
    |>.addIf (isBlankText a.city) "city" "can not be blank"
    |>.addIf (isBlankText a.state) "state" "can not be blank"
    |>.addIf (isBlankText a.postalCode) "postal_code" "can not be blank"
    |>.addIf (a.street2.any isBlankText) "street_address_2" "can not be blank when present"

end Address
end Haulage
