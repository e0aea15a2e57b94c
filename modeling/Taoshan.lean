import Taoshan.Lib.Run
import Taoshan.Utils.Delivery
import Taoshan.Utils.Wakeups
import Taoshan.Utils.ListCalls
import Taoshan.Utils.ConfLines
import Taoshan.Agps.StateMachine
import Taoshan.Agps.Transition
import Taoshan.Agps.Invariant
import Taoshan.Agps.Requests
import Taoshan.Agps.Notices
import Taoshan.Agps.Clones
import Taoshan.Agps.Identity
import Taoshan.Agps.Service
import Taoshan.Eng.Deferred
import Taoshan.Eng.Restart
import Taoshan.Eng.Isolation
import Taoshan.Eng.AidingData
import Taoshan.Eng.Muting
import Taoshan.Eng.Navigating
import Taoshan.Eng.DeferredStop
import Taoshan.Eng.Shutdown
import Taoshan.Eng.Startup
import Taoshan.Eng.Servers
import Taoshan.Camera.Exposure
import Taoshan.Conn.Glue
import Taoshan.Conn.Framing
import Taoshan.Conn.Server
import Taoshan.Conn.Control
import Taoshan.Conn.Launch
import Taoshan.Ni.Consent
import Taoshan.Ni.Ids
import Taoshan.Ni.Slot
import Taoshan.Ni.Custody
import Taoshan.Camera.Fixup
import Taoshan.Lib.Buffer
import Taoshan.Camera.AnyKeys
import Taoshan.Camera.IsoList
import Taoshan.Camera.Buffers
import Taoshan.Camera.Groups
import Taoshan.Camera.Cycles
import Taoshan.Agps.Disclosure
import Taoshan.Agps.NotifyLoop
import Taoshan.Lib.Numerals
import Taoshan.Utils.ConfNumbers
import Taoshan.Utils.ConfBytes
import Taoshan.Utils.TrimSpace
import Taoshan.Hal.Vendor
import Taoshan.Hal.CameraDevice
import Taoshan.Hal.LightDevice
import Taoshan.Eng.SessionCalls
import Taoshan.Eng.LocApiAdapter
import Taoshan.Eng.Sessions
import Taoshan.Eng.Conversations
import Taoshan.Conn.Teardown
import Taoshan.Eng.Grants
import Taoshan.Utils.ConfFiles
import Taoshan.Agps.Progress
import Taoshan.Camera.Custody
import Taoshan.Conn.EndToEnd
import Taoshan.Eng.Contexts
import Taoshan.Hal.Backlight
import Taoshan.Eng.Answers
