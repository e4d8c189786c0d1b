import NetRemote.Service.NetRemoteService.Refinement
import NetRemote.Wpa.WpaController.WireFormat

namespace NetRemote.Service.NetRemoteService

open Foundation Foundation.Bytes Api Wifi Wpa
open AccessPointControllerLinux (Spared propertiesOf)

def commandIn : System.Exchange → Option WpaCommand
  | ⟨.SendCommand command, _⟩ => some command
  | _ => none

-- Where the name of a property had a space, its value could begin elsewhere.
def spaced (propertyName : ByteString) : Bool := propertyName.contains 32

theorem spared_spaced (request : ControllerRequest) : Spared spaced request := by
  cases request with
  | SetPhyType ieeePhyType => cases ieeePhyType <;> decide
  | _ => simp only [Spared, propertiesOf]; decide

theorem within_answer {platform : Platform} {accessPointManager : IAccessPointManager System}
    (hlinux : OnLinux platform accessPointManager) (request : AccessPointRequest) :
    (answer platform accessPointManager request).Within (Unwatched spaced) := by
  have hrefines := refines_answer hlinux request
  rw [hrefines]
  exact Program.within_interpret
    (fun item => within_accessPointControllerLinux _ _ (spared_spaced item)) _

-- Nothing that a caller sends, as a name, a password or an address, makes one command
-- into another on its way to hostapd.
theorem answer_unambiguous (platform : Platform) (accessPointManager : IAccessPointManager System)
    (hlinux : OnLinux platform accessPointManager) (request : AccessPointRequest)
    (trace : List System.Exchange) (outcome : Except Fault WifiAccessPointOperationStatus)
    (hruns : (answer platform accessPointManager request).Runs trace outcome) :
    ∀ command ∈ trace.filterMap commandIn, readCommand command.payload = some command := by
  have hunwatched := Program.allowed_of_within (within_answer hlinux request) hruns
  intro command hcommand
  obtain ⟨⟨sent, reply⟩, hsent, hin⟩ := List.mem_filterMap.mp hcommand
  cases sent with
  | SendCommand sent =>
      obtain rfl := Option.some.inj hin
      apply readCommand_payload
      rintro propertyName propertyValue rfl
      have hname : spaced propertyName = false := hunwatched _ hsent
      simpa [spaced] using hname
  | _ => cases hin

theorem answer_unambiguous_guest :
    readCommand (str "SET ssid guest") = some (.Set (str "ssid") (str "guest")) :=
  answer_unambiguous defaultPlatform oneInterface onLinux_oneInterface enableGuest
    enableGuestRun.1 enableGuestRun.2 (Program.runs_run _ _) (.Set (str "ssid") (str "guest"))
    (by decide +kernel)

end NetRemote.Service.NetRemoteService
