import GatewayPolicy.Server.Fault
import GatewayPolicy.Settings.Template
import GatewayPolicy.Text.Percent

/-!
# Configuration files

A configuration file is read as UTF-8 and loaded; where it came from and its
text are kept, to be shown to operators.
-/

set_option autoImplicit false

namespace GatewayPolicy

structure Configuration where
  path : String
  content : String
  settings : Settings
  deriving DecidableEq, Repr

namespace Configuration

def ofText (path content : String) : Except SettingsFault Configuration :=
  (Settings.read content).map fun settings =>
    { path := path, content := content, settings := settings }

def ofBytes (path : String) (bytes : ByteArray) :
    Except ServerFault Configuration :=
  match String.fromUTF8? bytes with
  | none => .error (.io "stream did not contain valid UTF-8")
  | some content =>
      match ofText path content with
      | .ok configuration => .ok configuration
      | .error fault => .error (.settings fault)

def ofFile (path : String) : Option ByteArray → Except ServerFault Configuration
  | none => .error (.io "No such file or directory (os error 2)")
  | some bytes => ofBytes path bytes

end Configuration

end GatewayPolicy
