/-!
# ASCII letters

Names that are compared without regard to case fold the letters A to Z only;
every other character stands for itself.
-/

set_option autoImplicit false

namespace GatewayPolicy.Text

def lowerAscii (s : String) : String :=
  String.ofList (s.toList.map Char.toLower)

def eqIgnoringAsciiCase (s t : String) : Bool :=
  lowerAscii s == lowerAscii t

end GatewayPolicy.Text
