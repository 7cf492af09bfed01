/-!
# `Device` — the identity of an authenticated device
-/

namespace DeviceMessaging

/-- A device whose identity has been established, together with the tenant it belongs to. -/
structure Device where
  tenant : String
  device : String
  deriving DecidableEq

/-- The text of an identity: tenant and device with a slash between them. -/
def Device.render (d : Device) : String := d.tenant ++ "/" ++ d.device

end DeviceMessaging
