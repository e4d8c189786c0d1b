import NetRemote.Service.NetRemoteService
import NetRemote.Wpa.Hostapd.SaePasswordList

namespace NetRemote.Service.NetRemoteService.SaePasswordList

open Foundation Foundation.Bytes Api Wifi Wpa Wpa.Hostapd

-- Whatever is stored before, and however the commands are answered.
theorem setSaePasswords_replaces_iff (saePasswords : List SaePassword)
    (enforceConfigurationChange : EnforceConfigurationChange) (old : List ByteString) :
    (∀ trace outcome,
      (setSaePasswords saePasswords enforceConfigurationChange).Runs trace outcome →
        Replaced saePasswords old trace outcome) ↔
      ∀ saePassword ∈ saePasswords, ¬ Blank saePassword := by
  constructor
  · exact not_blank_of_replaced
  · intro hblank trace outcome hruns
    exact replaced_of_not_blank hblank hruns

-- The second password has an empty credential and nothing else.
def blankData : Dot11AuthenticationData :=
  { sae := some ⟨[{ credential := str "secret" }, { credential := [] }]⟩ }

def blankPasswords : List SaePassword :=
  (blankData.sae.elim [] fromDot11AuthenticationDataSae).map ieee80211RsnaPasswordToWpaSaePassword

-- The request is accepted, and hostapd is left without any password.
theorem setSaePasswords_clears_secret :
    validateAuthenticationData blankData = none ∧
      ∃ trace, (setSaePasswords blankPasswords .Now).Runs trace (.ok ()) ∧
        storedAfter [] trace = [] ∧ ¬ Replaced blankPasswords [] trace (.ok ()) := by
  have hruns := Program.runs_run obliging (setSaePasswords blankPasswords .Now)
  have hreturns : ((setSaePasswords blankPasswords .Now).run obliging []).2 = .ok () := by rfl
  have hstored :
      storedAfter [] ((setSaePasswords blankPasswords .Now).run obliging []).1 = [] := by
    decide +kernel
  rw [hreturns] at hruns
  refine ⟨by decide, _, hruns, hstored, ?_⟩
  intro hreplaced
  have hentries := hreplaced.returned rfl
  rw [hstored] at hentries
  exact absurd hentries (by decide)

end NetRemote.Service.NetRemoteService.SaePasswordList
