/-!
# The version of the library
-/

namespace LaneLift

def version : String := "0.4.0"

end LaneLift
